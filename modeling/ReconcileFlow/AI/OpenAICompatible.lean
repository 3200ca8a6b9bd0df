import ReconcileFlow.AI.Inference
import ReconcileFlow.Support.Json
import ReconcileFlow.Texts

/-!
# AI — OpenAICompatible

How the answer of a hosted provider is read: `_parse_response`, operation by operation, with what
each raises on a value of another kind.  What `json.loads` makes of a text is a parameter.

A response that is returned satisfies all its validations.  `parse_iff` says when nothing but
inference errors is raised: what the operations on texts, on `usage` and on the number raise is not
among the exceptions that are caught.
-/

namespace ReconcileFlow.AI

open Support

/-- What leaves the reading of an answer. -/
inductive ParseError
  /-- `AIInferenceError`, or a subclass. -/
  | inference (message : String)
  | other (error : PyError)
deriving DecidableEq, Repr

def invalidResponse : ParseError := .inference "inference provider returned an invalid response"

/-- The exceptions that `_parse_response` turns into an `AIInferenceResponseError`. -/
def isCaught : PyError → Bool
  | .keyError | .typeError | .valueError | .stopIteration => true
  | .attributeError | .overflowError | .recursionError => false

def attempt {α : Type} (x : Except PyError α) : Except ParseError α := x.mapError .other

/-- The handler of the `try` statement. -/
def ParseError.handled : ParseError → ParseError
  | .other error => if isCaught error then invalidResponse else .other error
  | error => error

/-! ### Suggestions -/

theorem isTextWithin_strip {value : String} {maximum : Nat}
    (h : strip value ≠ "" ∧ (strip value).length ≤ maximum) :
    isTextWithin maximum (strip value) = true := by
  have hblank : isBlank value = false := by
    by_contra hnot
    exact h.1 (strip_eq_empty (Bool.not_eq_false _ ▸ hnot))
  simp [isTextWithin, isText_strip hblank, h.2]

/-- A stripped text that is nonblank and not too long. -/
def boundedText (value : String) (maximum : Nat) :
    Except ParseError { text : String // isTextWithin maximum text = true } :=
  if h : strip value ≠ "" ∧ (strip value).length ≤ maximum then
    .ok ⟨strip value, isTextWithin_strip h⟩
  else .error invalidResponse

def scoreOf : Option Decimal → Except ParseError { score : Decimal // isFraction score = true }
  | some score => if h : isFraction score = true then .ok ⟨score, h⟩ else .error invalidResponse
  | none => .error invalidResponse

/-- A finite number between 0 and 1, which no truth value is. -/
def readConfidence (value : Json) :
    Except ParseError { score : Decimal // isFraction score = true } :=
  if value.isBool then .error invalidResponse else attempt value.finite >>= scoreOf

/-- `re.fullmatch` raises on a value that is no text. -/
def readReasonCode (value : Json) :
    Except ParseError { code : String // isReasonCode code = true } :=
  match value with
  | .str code => if h : isReasonCode code = true then .ok ⟨code, h⟩ else .error invalidResponse
  | _ => .error (.other .typeError)

/-- One to ten codes. -/
def readReasonCodes (values : List Json) : Except ParseError { codes : List String //
    codes ≠ [] ∧ codes.length ≤ 10 ∧ ∀ code ∈ codes, isReasonCode code = true } :=
  if hcount : values ≠ [] ∧ values.length ≤ 10 then
    match hcodes : values.mapM readReasonCode with
    | .error e => .error e
    | .ok codes =>
      have hlength : values.length = codes.length := (mapM_eq_ok_iff.mp hcodes).length_eq
      .ok ⟨codes.map Subtype.val, by
        refine ⟨fun hnil => hcount.1 ?_, ?_, fun code hcode => ?_⟩
        · rw [List.map_eq_nil_iff] at hnil
          rw [hnil] at hlength
          exact List.eq_nil_of_length_eq_zero hlength
        · rw [List.length_map, ← hlength]
          exact hcount.2
        · obtain ⟨⟨_, hvalid⟩, -, rfl⟩ := List.mem_map.mp hcode
          exact hvalid⟩
  else .error invalidResponse

/-- `__post_init__`. -/
def AIInferenceSuggestion.ofJson (candidateReference confidence : Json) (reasonCodes : List Json)
    (explanation : Json) : Except ParseError AIInferenceSuggestion := do
  let reference ← attempt candidateReference.text
  let summary ← attempt explanation.text
  let reference ← boundedText reference 200
  let score ← readConfidence confidence
  let summary ← boundedText summary 500
  let codes ← readReasonCodes reasonCodes
  return {
    candidateReference := reference.1, confidence := score.1, reasonCodes := codes.1
    explanation := summary.1, reference_valid := reference.2, confidence_valid := score.2
    explanation_valid := summary.2, reasonCodes_valid := codes.2 }

/-- The values of an entry of `suggestions`. -/
structure EntryFields where
  candidateReference : Json
  confidence : Json
  reasonCodes : List Json
  explanation : Json

def EntryFields.ofJson (item : Json) : Except PyError EntryFields := do
  let candidateReference ← item.subscript "candidate_reference"
  let confidence ← item.subscript "confidence"
  let listed ← item.subscript "reason_codes"
  let reasonCodes ← listed.iter
  let explanation ← item.subscript "explanation"
  return { candidateReference, confidence, reasonCodes, explanation }

def readSuggestion (item : Json) : Except ParseError AIInferenceSuggestion := do
  let fields ← attempt (EntryFields.ofJson item)
  AIInferenceSuggestion.ofJson fields.candidateReference fields.confidence fields.reasonCodes
    fields.explanation

/-! ### The answer -/

/-- The text of the first content that is an output text. -/
def searchContents : List Json → Except PyError (Option Json)
  | [] => .ok none
  | content :: contents => do
    let kind ← content.get "type" .null
    if kind.equals "output_text" then
      let text ← content.subscript "text"
      return some text
    else searchContents contents

/-- The same of the contents of the messages. -/
def searchItems : List Json → Except PyError (Option Json)
  | [] => .ok none
  | item :: items => do
    let kind ← item.get "type" .null
    if kind.equals "message" then
      let content ← item.subscript "content"
      let contents ← content.iter
      match ← searchContents contents with
      | some text => return some text
      | none => searchItems items
    else searchItems items

/-- `next` of the output texts. -/
def outputText (envelope : Json) : Except PyError Json := do
  let output ← envelope.subscript "output"
  let items ← output.iter
  match ← searchItems items with
  | some text => return text
  | none => throw .stopIteration

section

variable (modelVersion : String) (loads : String → Except PyError Json)
  (body : Except PyError Json) (request : AIInferenceRequest)

/-- `json.loads`, which takes texts only. -/
def loadText (value : Json) : Except PyError Json :=
  match value with
  | .str text => loads text
  | _ => .error .typeError

/-- The entries of `suggestions`, and the usage. -/
def readEntries : Except PyError (Json × List Json) := do
  let envelope ← body
  let text ← outputText envelope
  let structured ← loadText loads text
  let usage ← envelope.get "usage" (.obj [])
  let suggestions ← structured.subscript "suggestions"
  let entries ← suggestions.iter
  return (usage, entries)

/-- What is tried. -/
def readAnswer : Except ParseError (Json × List AIInferenceSuggestion) := do
  let (usage, entries) ← attempt (readEntries loads body)
  let suggestions ← entries.mapM readSuggestion
  return (usage, suggestions)

def readTokens (value : Json) : Except ParseError Nat :=
  match value with
  -- neither a truth value nor a number with a point is a count
  | .int n => if 0 ≤ n then .ok n.toNat else .error invalidResponse
  | _ => .error invalidResponse

/-- `__post_init__`. -/
def AIInferenceResponse.ofJson (suggestions : List AIInferenceSuggestion)
    (modelVersion promptVersion : String) (inputTokens outputTokens : Json) :
    Except ParseError AIInferenceResponse :=
  if hmodel : isBlank modelVersion = false ∧ modelVersion.length ≤ 100 then
    if hprompt : isBlank promptVersion = false ∧ promptVersion.length ≤ 100 then
      if hunique : (suggestions.map (·.candidateReference)).Nodup then do
        let input ← readTokens inputTokens
        let output ← readTokens outputTokens
        return {
          suggestions, modelVersion, promptVersion, inputTokens := input, outputTokens := output
          modelVersion_valid := hmodel, promptVersion_valid := hprompt
          references_unique := hunique }
      else .error invalidResponse
    else .error invalidResponse
  else .error invalidResponse

/-- What follows the `try` statement. -/
def buildResponse (usage : Json) (suggestions : List AIInferenceSuggestion) :
    Except ParseError AIInferenceResponse := do
  if request.features.length < suggestions.length then throw invalidResponse
  -- no handler is around this
  let inputTokens ← attempt (usage.get "input_tokens" (.int 0))
  let outputTokens ← attempt (usage.get "output_tokens" (.int 0))
  AIInferenceResponse.ofJson suggestions modelVersion request.promptVersion inputTokens outputTokens

/-- `_parse_response`; `body` is what `response.json()` makes of the answer. -/
def parseResponse : Except ParseError AIInferenceResponse := do
  let (usage, suggestions) ← (readAnswer loads body).mapError ParseError.handled
  buildResponse modelVersion request usage suggestions

end

/-! ### Which exceptions leave the parts -/

/-- An exception that the `try` statement lets through as an inference error. -/
def IsSafe : ParseError → Prop
  | .inference _ => True
  | .other error => isCaught error = true

/-- An inference error. -/
def IsInference (error : ParseError) : Prop := ∃ message, error = .inference message

theorem isInference_invalidResponse : IsInference invalidResponse := ⟨_, rfl⟩

theorem isInference_handled {error : ParseError} : IsInference error.handled ↔ IsSafe error := by
  cases error with
  | inference message => exact iff_of_true ⟨message, rfl⟩ trivial
  | other error =>
    simp only [ParseError.handled, IsSafe]
    by_cases h : isCaught error = true
    · rw [if_pos h]
      exact iff_of_true isInference_invalidResponse h
    · rw [if_neg h]
      exact iff_of_false (fun ⟨message, he⟩ => by cases he) h

theorem raisesOnly_attempt {α : Type} {P : ParseError → Prop} {x : Except PyError α} :
    RaisesOnly P (attempt x) ↔ RaisesOnly (fun e => P (.other e)) x :=
  raisesOnly_mapError

theorem safe_attempt {α : Type} {x : Except PyError α} :
    RaisesOnly IsSafe (attempt x) ↔ RaisesOnly (isCaught · = true) x :=
  raisesOnly_mapError

theorem attempt_eq_ok_iff {α : Type} {x : Except PyError α} {a : α} :
    attempt x = .ok a ↔ x = .ok a :=
  mapError_eq_ok_iff

theorem not_caught_attributeError : ¬ isCaught .attributeError = true := by decide

theorem not_caught_overflowError : ¬ isCaught .overflowError = true := by decide

/-! ### Suggestions -/

theorem safe_boundedText {value : String} {maximum : Nat} :
    RaisesOnly IsSafe (boundedText value maximum) := by
  unfold boundedText
  split
  · exact raisesOnly_ok _
  · exact raisesOnly_error.mpr trivial

theorem safe_readConfidence {value : Json} : RaisesOnly IsSafe (readConfidence value) ↔
    ∀ n, value = .int n → fitsFloat n = true := by
  have hscore (found : Option Decimal) : RaisesOnly IsSafe (scoreOf found) := by
    unfold scoreOf
    split
    · split
      · exact raisesOnly_ok _
      · exact raisesOnly_error.mpr trivial
    · exact raisesOnly_error.mpr trivial
  unfold readConfidence
  by_cases hbool : value.isBool = true
  · rw [if_pos hbool]
    refine iff_of_true (raisesOnly_error.mpr trivial) ?_
    rintro n rfl
    cases hbool
  · rw [if_neg hbool, raisesOnly_bind, safe_attempt,
      Json.raisesOnly_finite (P := (isCaught · = true)) rfl not_caught_overflowError]
    exact and_iff_left fun found _ => hscore found

theorem safe_readReasonCodes {values : List Json} : RaisesOnly IsSafe (readReasonCodes values) := by
  unfold readReasonCodes
  split
  · split
    · next e hcodes =>
      refine raisesOnly_error.mpr ?_
      obtain ⟨before, value, after, -, -, he⟩ := mapM_eq_error_iff.mp hcodes
      unfold readReasonCode at he
      split at he
      · split at he
        · cases he
        · cases he
          trivial
      · cases he
        rfl
    · exact raisesOnly_ok _
  · exact raisesOnly_error.mpr trivial

/-- The texts of an entry are texts, and its number is one that Python can convert, if the reading
comes that far. -/
structure EntryFields.Legible (fields : EntryFields) : Prop where
  reference : fields.candidateReference.isStr = true
  explanation : fields.explanation.isStr = true
  confidence : ∀ text n, fields.candidateReference = .str text →
    strip text ≠ "" ∧ (strip text).length ≤ 200 → fields.confidence = .int n → fitsFloat n = true

theorem boundedText_ok_iff {value : String} {maximum : Nat} :
    (∃ text, boundedText value maximum = .ok text) ↔
      strip value ≠ "" ∧ (strip value).length ≤ maximum := by
  unfold boundedText
  split
  · next h => exact iff_of_true ⟨_, rfl⟩ h
  · next h => exact iff_of_false (fun ⟨_, he⟩ => by cases he) h

/-- With both texts, all depends on the number, if the reference is accepted. -/
theorem safe_suggestion_texts {reference explanation : String} {confidence : Json}
    {codes : List Json} :
    RaisesOnly IsSafe (AIInferenceSuggestion.ofJson (.str reference) confidence codes
      (.str explanation)) ↔
      (strip reference ≠ "" ∧ (strip reference).length ≤ 200 →
        ∀ n, confidence = .int n → fitsFloat n = true) := by
  have htext (text : String) : attempt (Json.str text).text = pure text := rfl
  unfold AIInferenceSuggestion.ofJson
  rw [htext, htext, pure_bind, pure_bind, raisesOnly_bind]
  constructor
  · rintro ⟨-, h⟩ hbounded
    obtain ⟨text, htext⟩ := boundedText_ok_iff.mpr hbounded
    exact safe_readConfidence.mp (raisesOnly_bind.mp (h text htext)).1
  · intro h
    refine ⟨safe_boundedText, fun text htext => ?_⟩
    have hconfidence := safe_readConfidence.mpr (h (boundedText_ok_iff.mp ⟨text, htext⟩))
    refine raisesOnly_bind.mpr ⟨hconfidence, fun score _ => ?_⟩
    refine raisesOnly_bind.mpr ⟨safe_boundedText, fun summary _ => ?_⟩
    exact raisesOnly_bind.mpr ⟨safe_readReasonCodes, fun codes _ => raisesOnly_pure _⟩

theorem safe_suggestion {fields : EntryFields} :
    RaisesOnly IsSafe (AIInferenceSuggestion.ofJson fields.candidateReference fields.confidence
      fields.reasonCodes fields.explanation) ↔ fields.Legible := by
  have htext {value : Json} : RaisesOnly IsSafe (attempt value.text) ↔ value.isStr = true :=
    safe_attempt.trans (Json.raisesOnly_text not_caught_attributeError)
  obtain ⟨reference, confidence, codes, explanation⟩ := fields
  constructor
  · intro h
    obtain ⟨hreference, hrest⟩ := raisesOnly_bind.mp h
    obtain ⟨r, rfl⟩ := Json.isStr_iff.mp (htext.mp hreference)
    obtain ⟨hexplanation, -⟩ := raisesOnly_bind.mp (hrest r rfl)
    obtain ⟨x, rfl⟩ := Json.isStr_iff.mp (htext.mp hexplanation)
    refine ⟨rfl, rfl, fun text n htext => ?_⟩
    obtain rfl := Json.str.inj htext
    exact fun hbounded => safe_suggestion_texts.mp h hbounded n
  · rintro ⟨hreference, hexplanation, hconfidence⟩
    obtain ⟨r, rfl⟩ := Json.isStr_iff.mp hreference
    obtain ⟨x, rfl⟩ := Json.isStr_iff.mp hexplanation
    exact safe_suggestion_texts.mpr fun hbounded n => hconfidence r n rfl hbounded

theorem caught_fields {item : Json} : RaisesOnly (isCaught · = true) (EntryFields.ofJson item) := by
  have hsubscript {value : Json} {key : String} :
      RaisesOnly (isCaught · = true) (value.subscript key) := Json.raisesOnly_subscript rfl rfl
  unfold EntryFields.ofJson
  refine raisesOnly_bind.mpr ⟨hsubscript, fun candidateReference _ => ?_⟩
  refine raisesOnly_bind.mpr ⟨hsubscript, fun confidence _ => ?_⟩
  refine raisesOnly_bind.mpr ⟨hsubscript, fun listed _ => ?_⟩
  refine raisesOnly_bind.mpr ⟨Json.raisesOnly_iter rfl, fun reasonCodes _ => ?_⟩
  exact raisesOnly_bind.mpr ⟨hsubscript, fun explanation _ => raisesOnly_pure _⟩

/-- An entry whose fields, if it has them all, are legible. -/
def EntryLegible (item : Json) : Prop :=
  ∀ fields, EntryFields.ofJson item = .ok fields → fields.Legible

theorem safe_readSuggestion {item : Json} :
    RaisesOnly IsSafe (readSuggestion item) ↔ EntryLegible item := by
  unfold readSuggestion
  rw [raisesOnly_bind, and_iff_right (safe_attempt.mpr caught_fields)]
  exact forall_congr' fun fields => imp_congr attempt_eq_ok_iff safe_suggestion

/-! ### The output text -/

def hasType (value : Json) (kind : String) : Bool :=
  match value.get "type" .null with
  | .ok found => found.equals kind
  | .error _ => false

theorem hasType_of_get {value found : Json} {kind : String}
    (h : value.get "type" .null = .ok found) : hasType value kind = found.equals kind := by
  rw [hasType, h]

/-- The contents are objects, up to the first output text. -/
def ContentsLegible : List Json → Prop
  | [] => True
  | content :: contents =>
    content.isObject = true ∧ (hasType content "output_text" = false → ContentsLegible contents)

/-- The items are objects, and the contents of the messages legible, up to the first output text. -/
def ItemsLegible : List Json → Prop
  | [] => True
  | item :: items => item.isObject = true ∧
    if hasType item "message" = true then
      ∀ content contents, item.subscript "content" = .ok content → content.iter = .ok contents →
        ContentsLegible contents ∧
          ((∀ content ∈ contents, hasType content "output_text" = false) → ItemsLegible items)
    else ItemsLegible items

section

variable {contents items : List Json}

theorem exists_type {value : Json} (h : value.isObject = true) :
    ∃ found, value.get "type" .null = .ok found := by
  obtain ⟨fields, rfl⟩ := Json.isObject_iff.mp h
  exact ⟨_, rfl⟩

theorem isObject_of_get {value found : Json} (h : value.get "type" .null = .ok found) :
    value.isObject = true := by
  cases value with
  | obj => rfl
  | _ => cases h

theorem searchContents_eq_none_iff : searchContents contents = .ok none ↔
    ∀ content ∈ contents, content.isObject = true ∧ hasType content "output_text" = false := by
  induction contents with
  | nil => exact iff_of_true rfl fun _ hm => absurd hm List.not_mem_nil
  | cons content contents ih =>
    rw [searchContents, bind_eq_ok_iff, List.forall_mem_cons, ← ih]
    constructor
    · rintro ⟨kind, hkind, h⟩
      split at h
      · obtain ⟨text, -, h⟩ := bind_eq_ok_iff.mp h
        cases h
      · next hnot =>
        refine ⟨⟨isObject_of_get hkind, ?_⟩, h⟩
        rw [hasType_of_get hkind]
        exact Bool.eq_false_iff.mpr hnot
    · rintro ⟨⟨hobject, hnot⟩, h⟩
      obtain ⟨kind, hkind⟩ := exists_type hobject
      rw [hasType_of_get hkind] at hnot
      exact ⟨kind, hkind, by rwa [if_neg (Bool.eq_false_iff.mp hnot)]⟩

theorem ContentsLegible.isObject (h : ContentsLegible contents)
    (hnone : ∀ content ∈ contents, hasType content "output_text" = false) :
    ∀ content ∈ contents, content.isObject = true := by
  induction contents with
  | nil => exact fun _ hm => absurd hm List.not_mem_nil
  | cons content contents ih =>
    obtain ⟨hcontent, hcontents⟩ := List.forall_mem_cons.mp hnone
    exact List.forall_mem_cons.mpr ⟨h.1, ih (h.2 hcontent) hcontents⟩

theorem caught_searchContents :
    RaisesOnly (isCaught · = true) (searchContents contents) ↔ ContentsLegible contents := by
  induction contents with
  | nil => exact iff_of_true (raisesOnly_ok _) trivial
  | cons content contents ih =>
    rw [searchContents, raisesOnly_bind, Json.raisesOnly_get not_caught_attributeError,
      ContentsLegible, ← ih]
    refine and_congr_right fun hobject => ?_
    obtain ⟨kind, hkind⟩ := exists_type hobject
    rw [hasType_of_get hkind]
    constructor
    · intro h hnot
      have hrest := h kind hkind
      rwa [if_neg (Bool.eq_false_iff.mp hnot)] at hrest
    · intro h other hother
      obtain rfl := Except.ok.inj (hother.symm.trans hkind)
      split
      · refine raisesOnly_bind.mpr ⟨Json.raisesOnly_subscript rfl rfl, fun text _ => ?_⟩
        exact raisesOnly_pure _
      · next hnot => exact h (Bool.eq_false_iff.mpr hnot)

theorem caught_searchItems :
    RaisesOnly (isCaught · = true) (searchItems items) ↔ ItemsLegible items := by
  induction items with
  | nil => exact iff_of_true (raisesOnly_ok _) trivial
  | cons item items ih =>
    rw [searchItems, raisesOnly_bind, Json.raisesOnly_get not_caught_attributeError,
      ItemsLegible, ← ih]
    refine and_congr_right fun hobject => ?_
    obtain ⟨kind, hkind⟩ := exists_type hobject
    rw [hasType_of_get hkind]
    constructor
    · intro h
      have hrest := h kind hkind
      split
      · next hmessage =>
        rw [if_pos hmessage] at hrest
        intro content contents hcontent hcontents
        have hcontent := (raisesOnly_bind.mp hrest).2 content hcontent
        have hcontents := (raisesOnly_bind.mp hcontent).2 contents hcontents
        obtain ⟨hsearch, hnext⟩ := raisesOnly_bind.mp hcontents
        have hlegible := caught_searchContents.mp hsearch
        refine ⟨hlegible, fun hnone => hnext none (searchContents_eq_none_iff.mpr ?_)⟩
        exact fun content hm => ⟨hlegible.isObject hnone content hm, hnone content hm⟩
      · next hother => rwa [if_neg hother] at hrest
    · intro h other hother
      obtain rfl := Except.ok.inj (hother.symm.trans hkind)
      split
      · next hmessage =>
        rw [if_pos hmessage] at h
        refine raisesOnly_bind.mpr ⟨Json.raisesOnly_subscript rfl rfl, fun content hcontent => ?_⟩
        refine raisesOnly_bind.mpr ⟨Json.raisesOnly_iter rfl, fun contents hcontents => ?_⟩
        obtain ⟨hlegible, hnext⟩ := h content contents hcontent hcontents
        refine raisesOnly_bind.mpr ⟨caught_searchContents.mpr hlegible, fun found hfound => ?_⟩
        cases found with
        | some text => exact raisesOnly_pure _
        | none =>
          exact hnext fun content hm => (searchContents_eq_none_iff.mp hfound content hm).2
      · next hmessage => rwa [if_neg hmessage] at h

end

/-! ### Which exceptions leave the reading -/

section

variable (modelVersion : String) (loads : String → Except PyError Json)
  (body : Except PyError Json) (request : AIInferenceRequest)

/-- What has to be so for all exceptions to be inference errors, as far as the reading comes: the
parser raises what is caught (a text that is nested too deep has it raise a `RecursionError`), the
output is made of objects up to the text, the entries are legible, and the usage is an object. -/
structure Legible : Prop where
  parsed : RaisesOnly (isCaught · = true) body
  items : ∀ envelope output items, body = .ok envelope → envelope.subscript "output" = .ok output →
    output.iter = .ok items → ItemsLegible items
  text : ∀ envelope text, body = .ok envelope → outputText envelope = .ok (.str text) →
    RaisesOnly (isCaught · = true) (loads text)
  entries : ∀ usage entries, readEntries loads body = .ok (usage, entries) →
    ∀ before entry after, entries = before ++ entry :: after →
      (∀ earlier ∈ before, ∃ suggestion, readSuggestion earlier = .ok suggestion) →
        EntryLegible entry
  usage : ∀ usage suggestions, readAnswer loads body = .ok (usage, suggestions) →
    suggestions.length ≤ request.features.length → usage.isObject = true

variable {modelVersion loads body request}

theorem caught_outputText {envelope : Json} :
    RaisesOnly (isCaught · = true) (outputText envelope) ↔
      ∀ output items, envelope.subscript "output" = .ok output → output.iter = .ok items →
        ItemsLegible items := by
  unfold outputText
  constructor
  · intro h output items houtput hitems
    have houtput := (raisesOnly_bind.mp h).2 output houtput
    have hitems := (raisesOnly_bind.mp houtput).2 items hitems
    exact caught_searchItems.mp (raisesOnly_bind.mp hitems).1
  · intro h
    refine raisesOnly_bind.mpr ⟨Json.raisesOnly_subscript rfl rfl, fun output houtput => ?_⟩
    refine raisesOnly_bind.mpr ⟨Json.raisesOnly_iter rfl, fun items hitems => ?_⟩
    have hsearch := caught_searchItems.mpr (h output items houtput hitems)
    refine raisesOnly_bind.mpr ⟨hsearch, fun found _ => ?_⟩
    cases found with
    | some text => exact raisesOnly_pure _
    | none => exact raisesOnly_error.mpr rfl

theorem caught_loadText {value : Json} : RaisesOnly (isCaught · = true) (loadText loads value) ↔
    ∀ text, value = .str text → RaisesOnly (isCaught · = true) (loads text) := by
  cases value with
  | str text => exact ⟨fun h other hother => Json.str.inj hother ▸ h, fun h => h text rfl⟩
  | _ => exact iff_of_true (raisesOnly_error.mpr rfl) nofun

theorem isObject_of_outputText {envelope text : Json} (h : outputText envelope = .ok text) :
    envelope.isObject = true := by
  obtain ⟨output, houtput, -⟩ := bind_eq_ok_iff.mp h
  cases envelope with
  | obj => rfl
  | _ => cases houtput

theorem caught_readEntries : RaisesOnly (isCaught · = true) (readEntries loads body) ↔
    RaisesOnly (isCaught · = true) body ∧ ∀ envelope, body = .ok envelope →
      RaisesOnly (isCaught · = true) (outputText envelope) ∧
        ∀ text, outputText envelope = .ok (.str text) →
          RaisesOnly (isCaught · = true) (loads text) := by
  unfold readEntries
  rw [raisesOnly_bind]
  refine and_congr_right fun _ => forall_congr' fun envelope => imp_congr_right fun _ => ?_
  rw [raisesOnly_bind]
  refine and_congr_right fun _ => ?_
  constructor
  · intro h text htext
    exact caught_loadText.mp (raisesOnly_bind.mp (h _ htext)).1 text rfl
  · intro h value hvalue
    have hload : RaisesOnly (isCaught · = true) (loadText loads value) :=
      caught_loadText.mpr fun text htext => h text (htext ▸ hvalue)
    have hobject := isObject_of_outputText hvalue
    refine raisesOnly_bind.mpr ⟨hload, fun structured _ => ?_⟩
    refine raisesOnly_bind.mpr
      ⟨(Json.raisesOnly_get not_caught_attributeError).mpr hobject, fun usage _ => ?_⟩
    refine raisesOnly_bind.mpr ⟨Json.raisesOnly_subscript rfl rfl, fun suggestions _ => ?_⟩
    exact raisesOnly_bind.mpr ⟨Json.raisesOnly_iter rfl, fun entries _ => raisesOnly_pure _⟩

theorem safe_readAnswer : RaisesOnly IsSafe (readAnswer loads body) ↔
    RaisesOnly (isCaught · = true) (readEntries loads body) ∧
      ∀ usage entries, readEntries loads body = .ok (usage, entries) →
        ∀ before entry after, entries = before ++ entry :: after →
          (∀ earlier ∈ before, ∃ suggestion, readSuggestion earlier = .ok suggestion) →
            EntryLegible entry := by
  have hentries (usage : Json) (entries : List Json) :
      RaisesOnly IsSafe (entries.mapM readSuggestion >>= fun suggestions =>
        (pure (usage, suggestions) : Except ParseError _)) ↔
      ∀ before entry after, entries = before ++ entry :: after →
        (∀ earlier ∈ before, ∃ suggestion, readSuggestion earlier = .ok suggestion) →
          EntryLegible entry := by
    rw [raisesOnly_bind, raisesOnly_mapM]
    refine (and_iff_left fun suggestions _ => raisesOnly_pure _).trans ?_
    exact forall₃_congr fun before entry after => imp_congr_right fun _ => imp_congr_right fun _ =>
      safe_readSuggestion
  unfold readAnswer
  rw [raisesOnly_bind, safe_attempt]
  refine and_congr_right fun _ => ?_
  constructor
  · intro h usage entries hread
    exact (hentries usage entries).mp (h (usage, entries) (attempt_eq_ok_iff.mpr hread))
  · rintro h ⟨usage, entries⟩ hread
    exact (hentries usage entries).mpr (h usage entries (attempt_eq_ok_iff.mp hread))

theorem inference_readTokens {value : Json} : RaisesOnly IsInference (readTokens value) := by
  unfold readTokens
  split
  · split
    · exact raisesOnly_ok _
    · exact raisesOnly_error.mpr isInference_invalidResponse
  · exact raisesOnly_error.mpr isInference_invalidResponse

theorem inference_ofJson {suggestions : List AIInferenceSuggestion} {model prompt : String}
    {input output : Json} :
    RaisesOnly IsInference (AIInferenceResponse.ofJson suggestions model prompt input output) := by
  unfold AIInferenceResponse.ofJson
  split
  · split
    · split
      · refine raisesOnly_bind.mpr ⟨inference_readTokens, fun input _ => ?_⟩
        exact raisesOnly_bind.mpr ⟨inference_readTokens, fun output _ => raisesOnly_pure _⟩
      · exact raisesOnly_error.mpr isInference_invalidResponse
    · exact raisesOnly_error.mpr isInference_invalidResponse
  · exact raisesOnly_error.mpr isInference_invalidResponse

theorem inference_buildResponse {usage : Json} {suggestions : List AIInferenceSuggestion} :
    RaisesOnly IsInference (buildResponse modelVersion request usage suggestions) ↔
      (suggestions.length ≤ request.features.length → usage.isObject = true) := by
  have hget {key : String} : RaisesOnly IsInference (attempt (usage.get key (.int 0))) ↔
      usage.isObject = true :=
    raisesOnly_attempt.trans (Json.raisesOnly_get fun ⟨message, he⟩ => by cases he)
  unfold buildResponse
  by_cases hmany : request.features.length < suggestions.length
  · rw [if_pos hmany]
    refine iff_of_true (raisesOnly_error.mpr isInference_invalidResponse) fun hfew => ?_
    exact absurd hfew (not_le.mpr hmany)
  · rw [if_neg hmany]
    constructor
    · exact fun h _ => hget.mp (raisesOnly_bind.mp h).1
    · intro h
      have hobject := h (not_lt.mp hmany)
      refine raisesOnly_bind.mpr ⟨hget.mpr hobject, fun input _ => ?_⟩
      exact raisesOnly_bind.mpr ⟨hget.mpr hobject, fun output _ => inference_ofJson⟩

theorem inference_parseResponse :
    RaisesOnly IsInference (parseResponse modelVersion loads body request) ↔
      RaisesOnly IsSafe (readAnswer loads body) ∧
        ∀ usage suggestions, readAnswer loads body = .ok (usage, suggestions) →
          suggestions.length ≤ request.features.length → usage.isObject = true := by
  unfold parseResponse
  rw [raisesOnly_bind, raisesOnly_mapError]
  simp only [isInference_handled]
  refine and_congr_right fun _ => ?_
  constructor
  · intro h usage suggestions hread
    exact inference_buildResponse.mp (h (usage, suggestions) (mapError_eq_ok_iff.mpr hread))
  · rintro h ⟨usage, suggestions⟩ hread
    exact inference_buildResponse.mpr (h usage suggestions (mapError_eq_ok_iff.mp hread))

/-! ### What is returned -/

/-- The response meets its validations, and has no more suggestions than there are candidates. -/
structure Valid (request : AIInferenceRequest) (response : AIInferenceResponse) : Prop where
  unique : (response.suggestions.map (·.candidateReference)).Nodup
  suggestions : ∀ suggestion ∈ response.suggestions,
    isTextWithin 200 suggestion.candidateReference = true ∧
      isFraction suggestion.confidence = true ∧ isTextWithin 500 suggestion.explanation = true ∧
        suggestion.reasonCodes ≠ [] ∧ suggestion.reasonCodes.length ≤ 10 ∧
          ∀ code ∈ suggestion.reasonCodes, isReasonCode code = true
  versions : ∀ version ∈ [response.modelVersion, response.promptVersion],
    isBlank version = false ∧ version.length ≤ 100
  few : response.suggestions.length ≤ request.features.length

theorem suggestions_of_ofJson {suggestions : List AIInferenceSuggestion} {model prompt : String}
    {input output : Json} {response : AIInferenceResponse}
    (h : AIInferenceResponse.ofJson suggestions model prompt input output = .ok response) :
    response.suggestions = suggestions := by
  unfold AIInferenceResponse.ofJson at h
  split at h
  · split at h
    · split at h
      · obtain ⟨_, _, h⟩ := bind_eq_ok_iff.mp h
        obtain ⟨_, _, h⟩ := bind_eq_ok_iff.mp h
        rw [← Except.ok.inj h]
      · cases h
    · cases h
  · cases h

theorem valid_of_parse {response : AIInferenceResponse}
    (h : parseResponse modelVersion loads body request = .ok response) :
    Valid request response := by
  obtain ⟨⟨usage, suggestions⟩, -, h⟩ := bind_eq_ok_iff.mp h
  change buildResponse modelVersion request usage suggestions = .ok response at h
  unfold buildResponse at h
  have hfew : response.suggestions.length ≤ request.features.length := by
    by_cases hmany : request.features.length < suggestions.length
    · rw [if_pos hmany] at h
      cases h
    · rw [if_neg hmany] at h
      obtain ⟨_, -, h⟩ := bind_eq_ok_iff.mp h
      obtain ⟨_, -, h⟩ := bind_eq_ok_iff.mp h
      rw [suggestions_of_ofJson h]
      exact not_lt.mp hmany
  refine ⟨response.references_unique, fun suggestion _ => ?_, ?_, hfew⟩
  · exact ⟨suggestion.reference_valid, suggestion.confidence_valid, suggestion.explanation_valid,
      suggestion.reasonCodes_valid⟩
  · exact List.forall_mem_cons.mpr ⟨response.modelVersion_valid,
      List.forall_mem_singleton.mpr response.promptVersion_valid⟩

variable (modelVersion loads body request) in
/-- **What the reading of an answer comes to**: a valid response or an inference error, if and only
if the answer is legible. -/
theorem parse_iff :
    ((∀ response, parseResponse modelVersion loads body request = .ok response →
        Valid request response) ∧
      ∀ error, parseResponse modelVersion loads body request = .error error →
        IsInference error) ↔
      Legible loads body request := by
  refine (and_iff_right fun _ => valid_of_parse).trans (inference_parseResponse.trans ?_)
  rw [safe_readAnswer, caught_readEntries]
  constructor
  · rintro ⟨⟨⟨hparsed, houtput⟩, hentries⟩, husage⟩
    refine ⟨hparsed, fun envelope output items hbody => ?_, fun envelope text hbody => ?_, hentries,
      husage⟩
    · exact caught_outputText.mp (houtput envelope hbody).1 output items
    · exact (houtput envelope hbody).2 text
  · intro h
    refine ⟨⟨⟨h.parsed, fun envelope hbody => ?_⟩, h.entries⟩, h.usage⟩
    refine ⟨?_, fun text => h.text envelope text hbody⟩
    exact caught_outputText.mpr fun output items => h.items envelope output items hbody

end

/-- An answer that offers no suggestion, and whose usage is `null`. -/
def unmetered : Json :=
  .obj [("output", .arr [.obj [("type", .str "message"), ("content", .arr [
    .obj [("type", .str "output_text"), ("text", .str "\x7b\"suggestions\": []\x7d")]])]]),
    ("usage", .null)]

/-- `None` has no `get`: the `AttributeError` is none of the exceptions that are caught. -/
theorem usage_null_escapes :
    ¬ ((∀ response, parseResponse "hosted-model-v1"
          (fun _ => .ok (.obj [("suggestions", .arr [])])) (.ok unmetered)
          ⟨[⟨"candidate-opaque", .ofInt 1, .ofInt 1, .ofInt 1, true⟩], "prompt-v1"⟩ = .ok response →
        Valid ⟨[⟨"candidate-opaque", .ofInt 1, .ofInt 1, .ofInt 1, true⟩], "prompt-v1"⟩ response) ∧
      ∀ error, parseResponse "hosted-model-v1"
          (fun _ => .ok (.obj [("suggestions", .arr [])])) (.ok unmetered)
          ⟨[⟨"candidate-opaque", .ofInt 1, .ofInt 1, .ofInt 1, true⟩], "prompt-v1"⟩ =
        .error error → IsInference error) := by
  intro h
  obtain ⟨message, he⟩ := h.2 (.other .attributeError) rfl
  cases he

end ReconcileFlow.AI
