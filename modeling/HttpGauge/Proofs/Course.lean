import HttpGauge.Proofs.Sending
import HttpGauge.Provider

/-!
# The course of a run

One statement about each part of a run after its request is answered: how it ends, which value it
has evaluated and who writes its log.  Together with what is known of sending, everything else
about runs is derived from these.
-/

namespace HttpGauge

open HttpGauge.Json HttpGauge.Number

/-! ## Classifying -/

theorem isSuccess_iff {status : Int} : isSuccess status = true ↔ 200 ≤ status ∧ status < 300 := by
  simp [isSuccess]

/-- The first value of several sets is the head of the first set that is not empty. -/
def IsFirst (value : Value) (sets : List (List Value)) : Prop :=
  ∃ empty rest later, sets = empty ++ (value :: rest) :: later ∧ ∀ set ∈ empty, set = []

/-- Flattening finds the first value. -/
theorem firstValue?_eq_some_iff {selected : List (List Value)} {value : Value} :
    firstValue? selected = some value ↔ IsFirst value selected := by
  unfold firstValue?
  constructor
  · induction selected with
    | nil => intro found; simp at found
    | cons set sets ih =>
        intro found
        cases set with
        | cons head rest =>
            have same : head = value := by simpa using found
            exact ⟨[], rest, sets, by rw [same, List.nil_append], by simp⟩
        | nil =>
            obtain ⟨empty, rest, later, split, allEmpty⟩ := ih (by simpa using found)
            refine ⟨[] :: empty, rest, later, by rw [split, List.cons_append], ?_⟩
            intro set member
            rcases List.mem_cons.mp member with same | earlier
            · exact same
            · exact allEmpty set earlier
  · rintro ⟨empty, rest, later, rfl, allEmpty⟩
    have nothing : empty.flatten = [] := List.flatten_eq_nil_iff.mpr allEmpty
    simp [nothing]

/-- A value is measured when it is the first one and has a text. -/
theorem firstValue_eq_ok_iff {selected : List (List Value)} {value : Value} {text : String} :
    firstValue selected = .ok (value, text) ↔
      IsFirst value selected ∧ value.hasLongInt = false ∧ text = value.canonical.write .plain := by
  rw [← firstValue?_eq_some_iff]
  unfold firstValue canonicalText
  cases firstValue? selected with
  | none => simp
  | some first =>
      cases long : first.hasLongInt with
      | true =>
          constructor
          · intro measured
            simp [long, Except.map] at measured
          · rintro ⟨same, short, -⟩
            cases same
            rw [long] at short
            contradiction
      | false =>
          constructor
          · intro measured
            simp only [long, Except.map, Bool.false_eq_true, if_false, Except.ok.injEq,
              Prod.mk.injEq] at measured
            obtain ⟨rfl, rfl⟩ := measured
            exact ⟨rfl, long, rfl⟩
          · rintro ⟨same, -, rfl⟩
            cases same
            simp [long, Except.map]

namespace Response

variable {response : Response} {extractor : Extractor} {evaluator : Evaluator} {metric : Metric}

/-- A status that is no success ends the classification. -/
theorem classify_of_refused (refused : isSuccess response.status = false) :
    response.classify extractor evaluator metric =
      .fail (.protocol response.status .status) := by
  simp [classify, checkStatus, refused]

/-- So does a body that cannot be read. -/
theorem classify_of_unread {failure : Failure} (success : isSuccess response.status = true)
    (unread : response.readBody = .error failure) :
    response.classify extractor evaluator metric = .fail failure := by
  simp [classify, checkStatus, success, unread]

/-- A body that is read is judged. -/
theorem classify_of_read {body : List UInt8} (success : isSuccess response.status = true)
    (read : response.readBody = .ok body) :
    response.classify extractor evaluator metric = judgeBody extractor evaluator metric body := by
  simp [classify, checkStatus, success, read]

/-- A body is read exactly when it arrives. -/
theorem readBody_eq_ok_iff {body : List UInt8} :
    response.readBody = .ok body ↔ response.body = .ok body := by
  unfold readBody
  cases response.body <;> simp

/-- The trace of a body that is no document. -/
def rawTrace : Trace :=
  [.logged ⟨logger, .debug, "Response body is not JSON, using raw body as value"⟩]

/-- A body that is no document is successful as it is. -/
theorem judgeBody_of_raw {body : List UInt8} {reason : Unreadable}
    (raw : readBytes false body = .error reason) :
    judgeBody extractor evaluator metric body =
      ⟨.ok (Text.Utf8.decodeLossy body, .successful), rawTrace⟩ := by
  rw [judgeBody, raw]
  rfl

/-- A body that is a document is judged as one. -/
theorem judgeBody_of_document {body : List UInt8} {document : Value}
    (read : readBytes false body = .ok document) :
    judgeBody extractor evaluator metric body =
      judgeDocument extractor evaluator metric document := by
  rw [judgeBody, read]

/-- A document in which nothing is measured is not judged. -/
theorem judgeDocument_of_unmeasured {document : Value} {failure : Failure}
    (unmeasured : measured extractor document = .error failure) :
    judgeDocument extractor evaluator metric document = .fail failure := by
  rw [judgeDocument, unmeasured]

/-- A document is judged by the value measured in it. -/
theorem judgeDocument_of_measured {document value : Value} {text : String}
    (found : measured extractor document = .ok (value, text)) :
    judgeDocument extractor evaluator metric document =
      ⟨(evaluator.judge value metric).map (text, ·), [.evaluated value metric]⟩ := by
  rw [judgeDocument, found]
  rfl

/-- A value is measured when every segment finds what it looks for and the value is the first one
found and has a text. -/
theorem measured_eq_ok_iff {document value : Value} {text : String} :
    measured extractor document = .ok (value, text) ↔
      ∃ sets, extractor.find document = .ok sets ∧ firstValue sets = .ok (value, text) := by
  unfold measured
  cases extractor.find document <;> simp

/-- A response offers a value when its status is a success, its body is read and is a document,
every segment of the extractor finds what it looks for, and the value is the first one found. -/
structure Offers (response : Response) (extractor : Extractor) (value : Value) : Prop where
  success : isSuccess response.status = true
  /-- The value is the first one selected from the document that the body is. -/
  selected : ∃ body document sets, response.body = .ok body ∧
    readBytes false body = .ok document ∧ extractor.find document = .ok sets ∧
    IsFirst value sets

/-- A response offers at most one value. -/
theorem Offers.unique {first second : Value} (one : response.Offers extractor first)
    (other : response.Offers extractor second) : first = second := by
  obtain ⟨body, document, sets, arrived, read, found, isFirst⟩ := one.selected
  obtain ⟨body', document', sets', arrived', read', found', isFirst'⟩ := other.selected
  cases Except.ok.inj (arrived.symm.trans arrived')
  cases Except.ok.inj (read.symm.trans read')
  cases Except.ok.inj (found.symm.trans found')
  rw [← firstValue?_eq_some_iff] at isFirst isFirst'
  exact Option.some.inj (isFirst.symm.trans isFirst')

/-- The courses that a classification can take. -/
inductive Course (response : Response) (extractor : Extractor) (evaluator : Evaluator)
    (metric : Metric) : Traced (String × Phase) → Prop where
  | unread {failure : Failure}
      (unread : isSuccess response.status = true → ∀ body, response.body ≠ .ok body) :
      Course response extractor evaluator metric (.fail failure)
  | raw {body : List UInt8} (success : isSuccess response.status = true)
      (arrived : response.body = .ok body) (raw : ∀ document, readBytes false body ≠ .ok document) :
      Course response extractor evaluator metric
        ⟨.ok (Text.Utf8.decodeLossy body, .successful), rawTrace⟩
  | unmeasured {body : List UInt8} {document : Value} {failure : Failure}
      (success : isSuccess response.status = true) (arrived : response.body = .ok body)
      (read : readBytes false body = .ok document)
      (unmeasured : measured extractor document = .error failure) :
      Course response extractor evaluator metric (.fail failure)
  | measured {body : List UInt8} {document value : Value} {text : String}
      (success : isSuccess response.status = true) (arrived : response.body = .ok body)
      (read : readBytes false body = .ok document)
      (found : measured extractor document = .ok (value, text)) :
      Course response extractor evaluator metric
        ⟨(evaluator.judge value metric).map (text, ·), [.evaluated value metric]⟩

/-- Every classification takes one of them. -/
theorem course_classify (response : Response) (extractor : Extractor) (evaluator : Evaluator)
    (metric : Metric) :
    Course response extractor evaluator metric (response.classify extractor evaluator metric) := by
  cases success : isSuccess response.status with
  | false =>
      rw [classify_of_refused success]
      apply Course.unread
      intro succeeded
      rw [success] at succeeded
      contradiction
  | true =>
      cases read : response.readBody with
      | error failure =>
          rw [classify_of_unread success read]
          apply Course.unread
          intro _ body arrived
          rw [readBody_eq_ok_iff.mpr arrived] at read
          contradiction
      | ok body =>
          have arrived := readBody_eq_ok_iff.mp read
          rw [classify_of_read success read]
          cases readable : readBytes false body with
          | error reason =>
              rw [judgeBody_of_raw readable]
              apply Course.raw success arrived
              intro document isDocument
              rw [readable] at isDocument
              contradiction
          | ok document =>
              rw [judgeBody_of_document readable]
              cases found : measured extractor document with
              | error failure =>
                  rw [judgeDocument_of_unmeasured found]
                  exact Course.unmeasured success arrived readable found
              | ok result =>
                  rw [judgeDocument_of_measured found]
                  exact Course.measured success arrived readable found

/-- The offered value is evaluated, unless it has no text; nothing else is. -/
theorem evaluations_classify (response : Response) (extractor : Extractor)
    (evaluator : Evaluator) (metric : Metric) :
    (∃ value, response.Offers extractor value ∧ value.hasLongInt = false ∧
      (response.classify extractor evaluator metric).trace.evaluations = [(value, metric)]) ∨
    ((∀ value, response.Offers extractor value → value.hasLongInt = true) ∧
      (response.classify extractor evaluator metric).trace.evaluations = []) := by
  have course := response.course_classify extractor evaluator metric
  generalize response.classify extractor evaluator metric = result at course ⊢
  cases course with
  | unread unread =>
      apply Or.inr
      constructor
      · rintro value ⟨success, body, _, _, arrived, -⟩
        exact absurd arrived (unread success body)
      · rfl
  | raw success arrived raw =>
      apply Or.inr
      constructor
      · rintro value ⟨-, body, document, _, arrives, read, -⟩
        cases Except.ok.inj (arrived.symm.trans arrives)
        exact absurd read (raw document)
      · rfl
  | unmeasured success arrived read unmeasured =>
      apply Or.inr
      constructor
      · rintro value ⟨-, body, document, sets, arrives, readable, finds, isFirst⟩
        cases Except.ok.inj (arrived.symm.trans arrives)
        cases Except.ok.inj (read.symm.trans readable)
        cases short : value.hasLongInt with
        | true => rfl
        | false =>
            have measures := measured_eq_ok_iff.mpr ⟨sets, finds,
              firstValue_eq_ok_iff.mpr ⟨isFirst, short, rfl⟩⟩
            rw [unmeasured] at measures
            contradiction
      · rfl
  | @measured body document value text success arrived read found =>
      obtain ⟨sets, finds, first⟩ := measured_eq_ok_iff.mp found
      obtain ⟨isFirst, short, -⟩ := firstValue_eq_ok_iff.mp first
      exact Or.inl ⟨value, ⟨success, body, document, sets, arrived, read, finds, isFirst⟩, short,
        rfl⟩

/-- A value is evaluated when the response offers it and it has a text. -/
theorem mem_evaluations_classify_iff {value : Value} {judged : Metric} :
    (value, judged) ∈ (response.classify extractor evaluator metric).trace.evaluations ↔
      judged = metric ∧ response.Offers extractor value ∧ value.hasLongInt = false := by
  rcases response.evaluations_classify extractor evaluator metric with
    ⟨offered, offers, short, asked⟩ | ⟨long, silent⟩
  · rw [asked, List.mem_singleton, Prod.mk.injEq]
    constructor
    · rintro ⟨rfl, rfl⟩
      exact ⟨rfl, offers, short⟩
    · rintro ⟨rfl, offersValue, -⟩
      exact ⟨offersValue.unique offers, rfl⟩
  · rw [silent]
    constructor
    · intro asked
      contradiction
    · rintro ⟨-, offersValue, short⟩
      rw [long value offersValue] at short
      contradiction

/-- Judging a document succeeds when every segment finds what it looks for, the first value has a
text and the evaluator yields a phase for it. -/
theorem outcome_judgeDocument_eq_ok_iff {document : Value} :
    (∃ result, (judgeDocument extractor evaluator metric document).outcome = .ok result) ↔
      ∃ sets value phase, extractor.find document = .ok sets ∧ IsFirst value sets ∧
        value.hasLongInt = false ∧ evaluator.judge value metric = .ok phase := by
  constructor
  · rintro ⟨result, ended⟩
    cases found : measured extractor document with
    | error failure =>
        rw [judgeDocument_of_unmeasured found] at ended
        contradiction
    | ok first =>
        rw [judgeDocument_of_measured found] at ended
        obtain ⟨sets, finds, isMeasured⟩ := measured_eq_ok_iff.mp found
        obtain ⟨isFirst, short, -⟩ := firstValue_eq_ok_iff.mp isMeasured
        cases verdict : evaluator.judge first.1 metric with
        | error failure => simp [verdict, Except.map] at ended
        | ok phase => exact ⟨sets, first.1, phase, finds, isFirst, short, verdict⟩
  · rintro ⟨sets, value, phase, finds, isFirst, short, verdict⟩
    have measures := firstValue_eq_ok_iff.mpr ⟨isFirst, short, rfl⟩
    rw [judgeDocument_of_measured (measured_eq_ok_iff.mpr ⟨sets, finds, measures⟩), verdict]
    exact ⟨_, rfl⟩

/-- Judging a body succeeds when it is no document, or when judging the document succeeds. -/
theorem outcome_judgeBody_eq_ok_iff {body : List UInt8} :
    (∃ result, (judgeBody extractor evaluator metric body).outcome = .ok result) ↔
      (∀ document, readBytes false body ≠ .ok document) ∨
        ∃ document, readBytes false body = .ok document ∧
          ∃ result, (judgeDocument extractor evaluator metric document).outcome = .ok result := by
  cases read : readBytes false body with
  | error reason => simp [judgeBody_of_raw read]
  | ok document => simp [judgeBody_of_document read]

/-- A classification succeeds when the body of a success is no document, or when the first value
found in the document has a text and the evaluator yields a phase for it. -/
theorem outcome_classify_eq_ok_iff :
    (∃ result, (response.classify extractor evaluator metric).outcome = .ok result) ↔
      isSuccess response.status = true ∧ ∃ body, response.body = .ok body ∧
        ((∀ document, readBytes false body ≠ .ok document) ∨
          ∃ document sets value phase, readBytes false body = .ok document ∧
            extractor.find document = .ok sets ∧ IsFirst value sets ∧ value.hasLongInt = false ∧
            evaluator.judge value metric = .ok phase) := by
  have judged (body : List UInt8) :=
    @outcome_judgeBody_eq_ok_iff extractor evaluator metric body
  simp only [outcome_judgeDocument_eq_ok_iff, ← exists_and_left] at judged
  cases success : isSuccess response.status with
  | false => simp [classify_of_refused success]
  | true =>
      cases arrived : response.readBody with
      | error failure =>
          have absent : ∀ body, response.body ≠ .ok body := by
            intro body present
            rw [readBody_eq_ok_iff.mpr present] at arrived
            contradiction
          simp [classify_of_unread success arrived, absent]
      | ok body =>
          rw [classify_of_read success arrived, judged, readBody_eq_ok_iff.mp arrived]
          simp

/-- Classifying sends nothing. -/
theorem sent_classify : (response.classify extractor evaluator metric).trace.sent = [] := by
  have course := response.course_classify extractor evaluator metric
  generalize response.classify extractor evaluator metric = result at course ⊢
  cases course <;> rfl

/-- Classifying logs under one name. -/
theorem logger_of_mem_entries_classify {entry : Log.Entry}
    (member : entry ∈ (response.classify extractor evaluator metric).trace.entries) :
    entry.logger = logger := by
  have course := response.course_classify extractor evaluator metric
  generalize response.classify extractor evaluator metric = result at course member
  cases course with
  | raw =>
      rw [List.mem_singleton.mp member]
  | unread => contradiction
  | unmeasured => contradiction
  | measured => contradiction

end Response

/-! ## Runs -/

namespace Provider

/-- The courses that a run can take. -/
inductive Course (provider : Provider) (cache : Option Token) (order : RunOrder) :
    Traced (String × Phase) → Prop where
  | rejected {fault : ConfigurationFault} (rejected : order.metric.web.request = .error fault) :
      Course provider cache order (.fail (.configuration fault))
  | unsent {request : Request} {failure : Failure}
      (built : order.metric.web.request = .ok request)
      (unsent : (provider.client.send cache order.scene.now order.scene.answers request).outcome =
        .error failure) :
      Course provider cache order ⟨.error failure,
        (provider.client.send cache order.scene.now order.scene.answers request).trace⟩
  | answered {request : Request} {response : Response}
      (built : order.metric.web.request = .ok request)
      (sent : (provider.client.send cache order.scene.now order.scene.answers request).outcome =
        .ok response) :
      Course provider cache order
        ⟨(response.classify provider.extractor order.evaluator order.metric).outcome,
          (provider.client.send cache order.scene.now order.scene.answers request).trace ++
            (response.classify provider.extractor order.evaluator order.metric).trace⟩

/-- Every run takes one of them. -/
theorem course_pipeline (provider : Provider) (cache : Option Token) (order : RunOrder) :
    Course provider cache order (provider.pipeline cache order) := by
  unfold pipeline
  cases built : order.metric.web.request with
  | error fault => exact Course.rejected built
  | ok request =>
      cases sent : (provider.client.send cache order.scene.now order.scene.answers
          request).outcome with
      | error failure =>
          simp only [Client.hold_of_unsent sent]
          exact Course.unsent built sent
      | ok response =>
          simp only [Client.hold_of_answered sent]
          exact Course.answered built sent

variable {provider : Provider} {cache : Option Token} {order : RunOrder}

/-- A run sends what its request takes. -/
theorem sent_pipeline {request : Request} (built : order.metric.web.request = .ok request) :
    (provider.pipeline cache order).trace.sent =
      (provider.client.send cache order.scene.now order.scene.answers request).trace.sent := by
  have course := provider.course_pipeline cache order
  generalize provider.pipeline cache order = result at course ⊢
  cases course with
  | rejected rejected =>
      rw [built] at rejected
      contradiction
  | unsent builds unsent => rw [Except.ok.inj (built.symm.trans builds)]
  | answered builds sent =>
      rw [Except.ok.inj (built.symm.trans builds), Trace.sent_append, Response.sent_classify,
        List.append_nil]

/-- What a run of a rejected metric sends. -/
theorem sent_pipeline_of_rejected {fault : ConfigurationFault}
    (rejected : order.metric.web.request = .error fault) :
    (provider.pipeline cache order).trace.sent = [] := by
  rw [pipeline, rejected]
  rfl

end Provider

end HttpGauge
