import MockApi.Proofs.Reading
import MockApi.Server.Incoming

/-!
# What is received of a call

* `HttpRequest.BodyIs` : what the body of a call stands for;
* `HttpRequest.Brings` : what a call brings along;
* `HttpRequest.HoldsLong` : an integer in a JSON body that is too long to be converted;
* `HttpRequest.incoming_eq_ok_iff` : a call is received if its body is read;
* `HttpRequest.incoming_iff_not_holdsLong` : such an integer is all that keeps a call from being
  received, and everything else that is no document is kept as text.
-/

namespace MockApi

/-- Bytes of ASCII are read one by one. -/
theorem Text.decodeLossy_of_ascii {bytes : List Nat} (h : ∀ b ∈ bytes, b < 0x80) :
    Text.decodeLossy bytes = String.ofList (bytes.map Char.ofNat) := by
  suffices Text.decodeFrom 0 0 0 0 bytes = bytes.map fun b => some (Char.ofNat b) by
    simp [Text.decodeLossy, this, Function.comp_def]
  induction bytes with
  | nil => rfl
  | cons b bytes ih =>
    have hb := h b List.mem_cons_self
    simp [Text.decodeFrom, Text.leadByte?, hb, ih fun b hb => h b (List.mem_cons_of_mem _ hb)]

namespace HttpRequest

variable {request : HttpRequest} {v : Value} {n : Nat}

/-! ## Bodies -/

def contentType (request : HttpRequest) : String :=
  ((collectHeaders request.headers).lookup "content-type").getD ""

/-- The body as text, with U+FFFD where it is not UTF-8. -/
def bodyText (request : HttpRequest) : String := Text.decodeLossy request.body

def SaysJson (request : HttpRequest) : Prop := jsonType.toList <+: request.contentType.toList

def SaysForm (request : HttpRequest) : Prop := formType.toList <+: request.contentType.toList

/-- What the body of a call stands for: null if there is none, a document or a form as its value if
it is said to be one, and its text otherwise, also if it is no document. -/
inductive BodyIs (request : HttpRequest) : Value → Prop
  | absent (hbody : request.body = []) : BodyIs request .null
  | document {v : Value} (hbody : request.body ≠ []) (hjson : request.SaysJson)
    (h : Json.IsDocument .standard request.bodyText.toList v) : BodyIs request v
  | broken (hbody : request.body ≠ []) (hjson : request.SaysJson)
    (h : ∀ v, ¬ Json.IsDocument .standard request.bodyText.toList v) :
    BodyIs request (.text request.bodyText)
  | form (hbody : request.body ≠ []) (hjson : ¬ request.SaysJson) (hform : request.SaysForm) :
    BodyIs request (formValue request.bodyText)
  | plain (hbody : request.body ≠ []) (hjson : ¬ request.SaysJson) (hform : ¬ request.SaysForm) :
    BodyIs request (.text request.bodyText)

/-- A body stands for one value. -/
theorem BodyIs.unique {v' : Value} (h : request.BodyIs v) (h' : request.BodyIs v') : v = v' := by
  cases h with
  | absent hbody =>
    cases h' with
    | absent => rfl
    | document hbody' | broken hbody' | form hbody' | plain hbody' => exact absurd hbody hbody'
  | document hbody hjson h =>
    cases h' with
    | absent hbody' => exact absurd hbody' hbody
    | document _ _ h' => exact h.unique h'
    | broken _ _ h' => exact absurd h (h' _)
    | form _ hjson' | plain _ hjson' => exact absurd hjson hjson'
  | broken hbody hjson h =>
    cases h' with
    | absent hbody' => exact absurd hbody' hbody
    | document _ _ h' => exact absurd h' (h _)
    | broken => rfl
    | form _ hjson' | plain _ hjson' => exact absurd hjson hjson'
  | form hbody hjson hform =>
    cases h' with
    | absent hbody' => exact absurd hbody' hbody
    | document _ hjson' | broken _ hjson' => exact absurd hjson' hjson
    | form => rfl
    | plain _ _ hform' => exact absurd hform hform'
  | plain hbody hjson hform =>
    cases h' with
    | absent hbody' => exact absurd hbody' hbody
    | document _ hjson' | broken _ hjson' => exact absurd hjson' hjson
    | form _ _ hform' => exact absurd hform' hform
    | plain => rfl

/-- The body is said to be a JSON document, and an integer with too many digits stands in it where
all before it is in order. -/
def HoldsLong (request : HttpRequest) (n : Nat) : Prop :=
  request.SaysJson ∧ Json.HoldsLong .standard request.bodyText.toList n

theorem body_ne_nil_of_holdsLong (h : request.HoldsLong n) : request.body ≠ [] := by
  intro hbody
  have hempty : request.bodyText.toList = [] := by
    rw [bodyText, hbody]
    rfl
  have := h.2.2.pos
  simp [hempty, Json.skipGaps] at this

theorem readBody_of_holdsLong (h : request.HoldsLong n) :
    readBody request.contentType request.body = .error (.tooLong n) := by
  have hread := Json.read_eq_long_iff.2 h.2
  have hbody := body_ne_nil_of_holdsLong h
  have hjson := List.isPrefixOf_iff_prefix.2 h.1
  rw [readBody, if_neg (by simpa using hbody), if_pos hjson, jsonValue, ← bodyText, hread]

/-- A body without an integer that is too long is read as what it stands for. -/
theorem exists_readBody (h : ∀ n, ¬ request.HoldsLong n) :
    ∃ v, readBody request.contentType request.body = .ok v ∧ request.BodyIs v := by
  unfold readBody
  split
  · next hbody => exact ⟨_, rfl, .absent (by simpa using hbody)⟩
  · next hbody =>
    have hbody : request.body ≠ [] := by simpa using hbody
    rw [← bodyText]
    dsimp only
    split
    · next hjson => 
      have hjson : request.SaysJson := List.isPrefixOf_iff_prefix.1 hjson
      unfold jsonValue
      split
      · next v hread => exact ⟨v, rfl, .document hbody hjson (Json.read_eq_ok_iff.1 hread)⟩
      · next n hread => exact absurd ⟨hjson, Json.read_eq_long_iff.1 hread⟩ (h n)
      · next hread => 
        refine ⟨_, rfl, .broken hbody hjson fun v hv => ?_⟩
        rw [← Json.read_eq_ok_iff, hread] at hv
        cases hv
    · next hjson => 
      have hjson : ¬ request.SaysJson := fun h => hjson (List.isPrefixOf_iff_prefix.2 h)
      split
      · next hform => exact ⟨_, rfl, .form hbody hjson (List.isPrefixOf_iff_prefix.1 hform)⟩
      · next hform => exact ⟨_, rfl, .plain hbody hjson fun h => hform (List.isPrefixOf_iff_prefix.2 h)⟩

/-! ## Calls -/

/-- What a call brings along. -/
structure Brings (request : HttpRequest) (params : Members Value) (incoming : IncomingRequest) :
    Prop where
  params : incoming.params = params
  query : incoming.query = collectQuery (Text.formPairs (bytewise request.query))
  headers : incoming.headers = textMembers (collectHeaders request.headers)
  body : request.BodyIs incoming.body

theorem incoming_eq_ok_iff {params : Members Value} {incoming : IncomingRequest} :
    request.incoming params = .ok incoming ↔
      ∃ v, readBody request.contentType request.body = .ok v ∧
        incoming = ⟨params, collectQuery (Text.formPairs (bytewise request.query)),
          textMembers (collectHeaders request.headers), v⟩ := by
  unfold HttpRequest.incoming contentType
  dsimp only
  rw [Json.bind_eq_ok_iff]
  simp only [pure, Except.pure, Except.ok.injEq, eq_comm]

theorem incoming_of_holdsLong (h : request.HoldsLong n) (params : Members Value) :
    request.incoming params = .error (.tooLong n) := by
  have hbody := readBody_of_holdsLong h
  rw [contentType] at hbody
  simp [incoming, hbody, bind, Except.bind]

/-- A call is received, with all that it brings along, unless its body is said to be JSON and holds
an integer that is too long; that integer is then the error. -/
theorem incoming_iff_not_holdsLong (request : HttpRequest) (params : Members Value) :
    ((∃ incoming, request.incoming params = .ok incoming ∧ request.Brings params incoming) ↔
      ∀ n, ¬ request.HoldsLong n) ∧
    ∀ n, request.HoldsLong n → request.incoming params = .error (.tooLong n) := by
  refine ⟨⟨?_, fun h => ?_⟩, fun n h => incoming_of_holdsLong h params⟩
  · rintro ⟨incoming, hincoming, -⟩ n hlong
    rw [incoming_of_holdsLong hlong] at hincoming
    cases hincoming
  · obtain ⟨v, hbody, hv⟩ := exists_readBody h
    exact ⟨_, incoming_eq_ok_iff.2 ⟨v, hbody, rfl⟩, ⟨rfl, by dsimp only, by dsimp only, hv⟩⟩

/-- A call with so many ones for a JSON document. -/
def ofOnes (count : Nat) : HttpRequest :=
  ⟨"POST", "/x", "", [("content-type", jsonType)], List.replicate count 0x31⟩

theorem holdsLong_ofOnes {count : Nat} (h : maxIntegerDigits < count) :
    (ofOnes count).HoldsLong count := by
  obtain ⟨count, rfl⟩ : ∃ k, count = k + 1 := ⟨count - 1, by omega⟩
  have htype : (ofOnes (count + 1)).contentType = jsonType := by
    have hname : Text.lowerString "content-type" = "content-type" := by decide
    simp [contentType, ofOnes, collectHeaders, hname]
  have htext : (ofOnes (count + 1)).bodyText.toList = List.replicate (count + 1) '1' := by
    rw [bodyText, ofOnes, Text.decodeLossy_of_ascii (by simp)]
    simp
  have hgaps : Json.skipGaps (List.replicate (count + 1) '1') = List.replicate (count + 1) '1' := by
    rw [List.replicate_succ, Json.skipGaps, List.dropWhile_cons_of_neg (by decide)]
  have hdigits : Json.wholeDigits? (List.replicate (count + 1) '1') =
      some (List.replicate (count + 1) '1', []) := by
    rw [List.replicate_succ, Json.wholeDigits?, if_pos (by decide), ← List.replicate_succ,
      Json.takeDigits, List.takeWhile_replicate, List.dropWhile_replicate]
    · rfl
    · decide
  refine ⟨?_, ?_, .numeral (.inl ⟨List.replicate (count + 1) '1', [], ?_, rfl, rfl,
    List.length_replicate, h⟩)⟩
  · simp [SaysJson, htype]
  · rw [htext]
    simp [List.replicate_succ]
  · rw [htext, hgaps, hdigits]

/-- A digit behind a byte order mark is kept as text; of 4301 digits alone there is only the error. -/
theorem incoming_iff_not_holdsLong_marked :
    let request : HttpRequest :=
      ⟨"POST", "/x", "", [("Content-Type", "application/json")], [0xEF, 0xBB, 0xBF, 0x31]⟩
    (∀ n, ¬ request.HoldsLong n) ∧
      (∃ incoming, request.incoming [] = .ok incoming ∧ request.Brings [] incoming) ∧
      (ofOnes 4301).HoldsLong 4301 ∧ (ofOnes 4301).incoming [] = .error (.tooLong 4301) := by
  intro request
  have hshort : ∀ n, ¬ request.HoldsLong n := by
    rintro n ⟨-, hmark, -⟩
    exact hmark (by decide +kernel)
  have hlong : (ofOnes 4301).HoldsLong 4301 := holdsLong_ofOnes (by decide)
  exact ⟨hshort, (incoming_iff_not_holdsLong request []).1.2 hshort, hlong,
    (incoming_iff_not_holdsLong (ofOnes 4301) []).2 4301 hlong⟩

/-- A document of 4301 digits is not received, neither as a number nor as text. -/
theorem incoming_fails_on_long_integer :
    (ofOnes 4301).SaysJson ∧ (ofOnes 4301).incoming [] = .error (.tooLong 4301) := by
  have hlong : (ofOnes 4301).HoldsLong 4301 := holdsLong_ofOnes (by decide)
  exact ⟨hlong.1, incoming_of_holdsLong hlong []⟩

end HttpRequest

end MockApi
