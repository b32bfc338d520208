import SoulClaw.Foundation.Lines
import SoulClaw.Foundation.Uuid

/-! The trace of a request. Its identifier is bound while the request is served, and is sent on in a `traceparent`
header, whose second field it has to fill. -/

namespace SoulClaw.Infra.Trace
open Foundation Loads

structure TraceContext where
  traceId : String
  requestId : String
  deriving DecidableEq, Repr

/-- `first or second`. -/
def either (first second : String) : String := if first = "" then second else first

/-- `[a-zA-Z0-9_.:-]`. -/
def tokenChar (c : Char) : Bool :=
  ('a' ≤ c ∧ c ≤ 'z') ∨ ('A' ≤ c ∧ c ≤ 'Z') ∨ ('0' ≤ c ∧ c ≤ '9') ∨ c ∈ ['_', '.', ':', '-']

/-- `[0-9a-fA-F]`. -/
def hexChar (c : Char) : Bool := (hexValue c).isSome

section Trace
variable [CharData]

/-- `_clean_token`. -/
def cleanToken (value : String) : String :=
  let token := Text.strip value
  if token = "" then ""
  else String.ofList ((token.toList.filter tokenChar).take 128)

/-- `normalize_trace_context`; `fresh` is what `uuid4` would return. -/
def normalizeTraceContext (traceId requestId : String) (fresh : Uuid) : TraceContext :=
  let traceId := either (cleanToken traceId) (either (cleanToken requestId) fresh.hex)
  let requestId := either (cleanToken requestId) traceId
  ⟨traceId, requestId⟩

def traceIdFromTraceparent (value : String) : String :=
  match (Text.strip value).toList.splitOn '-' with
  | _ :: id :: _ :: _ :: _ => if id.length = 32 ∧ id.all hexChar then Text.lower (String.ofList id) else ""
  | _ => ""

/-- `traceparent_from_trace_id`, with what its two calls of `uuid4` would return. -/
def traceparentFromTraceId (traceId : String) (fresh span : Uuid) : String :=
  let traceId := either (cleanToken traceId) fresh.hex
  String.ofList ("00-".toList ++ (traceId.toList.take 32).rightpad 32 '0' ++ '-' :: span.hex.toList.take 16 ++ "-01".toList)

/-! The middleware. -/

/-- The headers of a request that it reads. -/
structure Request where
  traceparent : Option String := none
  requestId : Option String := none

/-- The headers of a response that it sets. -/
structure Response where
  traceparent : Option String := none
  requestId : Option String := none
  deriving DecidableEq, Repr

/-- The identifiers that `uuid4` returns to it. -/
structure Draws where
  trace : Uuid
  fallback : Uuid
  span : Uuid

/-- What is bound while the endpoint runs. -/
def bound (request : Request) (draws : Draws) : TraceContext :=
  normalizeTraceContext (traceIdFromTraceparent (request.traceparent.getD "")) (request.requestId.getD "") draws.trace

/-- `TraceContextMiddleware.dispatch`. -/
def dispatch (request : Request) (endpoint : TraceContext → Response) (draws : Draws) : Response :=
  let context := bound request draws
  let response := endpoint context
  { requestId := some context.requestId
    traceparent := response.traceparent <|> some (traceparentFromTraceId context.traceId draws.fallback draws.span) }

/-! Texts. -/

omit [CharData] in
theorem either_eq_self {first : String} (some' : first ≠ "") (second : String) : either first second = first := by
  rw [either, if_neg some']

omit [CharData] in
@[simp] theorem either_empty (second : String) : either "" second = second := if_pos rfl

omit [CharData] in
theorem either_ne_empty {first second : String} (some' : second ≠ "") : either first second ≠ "" := by
  rw [either]
  split
  · exact some'
  next other => exact other

/-- The characters that `uuid4().hex` has. -/
def HexId (text : String) : Prop :=
  text.toList.length = 32 ∧ ∀ c ∈ text.toList, ('0' ≤ c ∧ c ≤ '9') ∨ ('a' ≤ c ∧ c ≤ 'f')

instance (text : String) : Decidable (HexId text) := inferInstanceAs (Decidable (_ ∧ _))

omit [CharData] in
theorem HexId.ne_empty {text : String} (id : HexId text) : text ≠ "" := by
  rintro rfl
  exact absurd id.1 (by decide)

omit [CharData] in
theorem hexId_hex (id : Uuid) : HexId id.hex := by
  rw [HexId, Uuid.hex, String.toList_ofList]
  refine ⟨Text.length_hexDigits .., ?_⟩
  intro c member
  obtain ⟨place, _, rfl⟩ := List.mem_map.1 member
  have checked : ∀ digit : Fin 16, ('0' ≤ Nat.digitChar digit ∧ Nat.digitChar digit ≤ '9') ∨
      ('a' ≤ Nat.digitChar digit ∧ Nat.digitChar digit ≤ 'f') := by decide +kernel
  exact checked ⟨_, Nat.mod_lt _ (by decide)⟩

/-- A character of an identifier is kept as it is by all that is done to it. -/
structure Plain (c : Char) : Prop where
  token : tokenChar c = true
  hex : hexChar c = true
  visible : CharData.isSpace c = false
  lower : CharData.lower c = [c]
  apart : c ≠ '-'

omit [CharData] in
theorem hexChar_ascii {c : Char} (hex : hexChar c = true) : c.toNat < 128 := by
  rw [hexChar, hexValue] at hex
  split at hex
  next digit => exact Nat.lt_of_le_of_lt (show c.toNat ≤ 0x39 from digit.2) (by decide)
  split at hex
  next letter => exact Nat.lt_of_le_of_lt (show c.toNat ≤ 0x66 from letter.2) (by decide)
  split at hex
  next capital => exact Nat.lt_of_le_of_lt (show c.toNat ≤ 0x46 from capital.2) (by decide)
  next => cases hex

omit [CharData] in
theorem hexChar_of_lower {c : Char} (lower : ('0' ≤ c ∧ c ≤ '9') ∨ ('a' ≤ c ∧ c ≤ 'f')) : hexChar c = true := by
  rw [hexChar, hexValue]
  rcases lower with digit | letter
  · rw [if_pos digit]
    rfl
  · by_cases digit : '0' ≤ c ∧ c ≤ '9'
    · rw [if_pos digit]
      rfl
    · rw [if_neg digit, if_pos letter]
      rfl

theorem HexId.plain {text : String} (id : HexId text) {c : Char} (member : c ∈ text.toList) : Plain c := by
  have lower := id.2 c member
  have hex := hexChar_of_lower lower
  have small := hexChar_ascii hex
  have checked : ∀ c : Char, c.toNat < 128 → (('0' ≤ c ∧ c ≤ '9') ∨ ('a' ≤ c ∧ c ≤ 'f')) →
      tokenChar c = true ∧ asciiSpace c = false ∧ c.toLower = c ∧ c ≠ '-' := Text.forall_ascii (by decide +kernel)
  obtain ⟨token, visible, lowered, apart⟩ := checked c small lower
  refine ⟨token, hex, ?_, ?_, apart⟩
  · rw [CharData.isSpace_ascii c small, visible]
  · rw [CharData.lower_ascii c small, lowered]

theorem strip_of_visible {text : String} (visible : ∀ c ∈ text.toList, CharData.isSpace c = false) :
    Text.strip text = text := by
  apply String.toList_injective
  rw [Lines.strip_toList]
  exact Lines.strip_of_visible visible

theorem cleanToken_of_hexId {text : String} (id : HexId text) : cleanToken text = text := by
  have stripped : Text.strip text = text := strip_of_visible fun c member => (id.plain member).visible
  have filtered : text.toList.filter tokenChar = text.toList :=
    List.filter_eq_self.2 fun c member => (id.plain member).token
  have short : text.toList.length ≤ 128 := by
    rw [id.1]
    decide
  rw [cleanToken, stripped]
  show (if text = "" then "" else String.ofList ((text.toList.filter tokenChar).take 128)) = text
  rw [if_neg id.ne_empty, filtered, List.take_of_length_le short, String.ofList_toList]

theorem cleanToken_empty : cleanToken "" = "" := by
  rw [cleanToken]
  exact if_pos rfl

/-- What the parser accepts is an identifier. -/
theorem hexId_traceIdFromTraceparent {value : String} (accepted : traceIdFromTraceparent value ≠ "") :
    HexId (traceIdFromTraceparent value) := by
  rw [traceIdFromTraceparent] at accepted ⊢
  split at accepted
  next id _ _ _ _ =>
    by_cases matched : id.length = 32 ∧ id.all hexChar
    · rw [if_pos matched]
      have hex := List.all_eq_true.1 matched.2
      have ascii : Text.isAscii (String.ofList id) = true := by
        rw [Text.isAscii, String.toList_ofList]
        exact List.all_eq_true.2 fun c member => decide_eq_true (hexChar_ascii (hex c member))
      have checked : ∀ c : Char, c.toNat < 128 → hexChar c = true →
          ('0' ≤ c.toLower ∧ c.toLower ≤ '9') ∨ ('a' ≤ c.toLower ∧ c.toLower ≤ 'f') :=
        Text.forall_ascii (by decide +kernel)
      rw [HexId, Text.lower_of_ascii ascii, String.toList_ofList, String.toList_ofList, List.length_map]
      refine ⟨matched.1, ?_⟩
      intro c member
      obtain ⟨origin, known, rfl⟩ := List.mem_map.1 member
      exact checked origin (hexChar_ascii (hex origin known)) (hex origin known)
    · rw [if_neg matched] at accepted
      exact absurd rfl accepted
  next => exact absurd rfl accepted

/-! The way through the header. -/

omit [CharData] in
theorem splitOn_cut {first rest : List Char} (plain : '-' ∉ first) :
    (first ++ '-' :: rest).splitOn '-' = first :: rest.splitOn '-' := by
  rw [List.splitOn_append_cons_self, List.splitOn_eq_singleton plain]
  rfl

/-- An identifier fills its field, and is read back from it. -/
theorem traceIdFromTraceparent_of_hexId {id : String} (hexId : HexId id) (fresh span : Uuid) :
    traceIdFromTraceparent (traceparentFromTraceId id fresh span) = id := by
  have field : (id.toList.take 32).rightpad 32 '0' = id.toList := by
    rw [List.take_of_length_le hexId.1.le, List.rightpad, hexId.1]
    exact List.append_nil _
  have spanPlain : ∀ c ∈ span.hex.toList.take 16, Plain c :=
    fun c member => (hexId_hex span).plain (List.mem_of_mem_take member)
  have text : (traceparentFromTraceId id fresh span).toList =
      ['0', '0'] ++ '-' :: (id.toList ++ '-' :: (span.hex.toList.take 16 ++ '-' :: ['0', '1'])) := by
    rw [traceparentFromTraceId, String.toList_ofList, cleanToken_of_hexId hexId, either_eq_self hexId.ne_empty, field]
    simp
  have visible : ∀ c ∈ (traceparentFromTraceId id fresh span).toList, CharData.isSpace c = false := by
    intro c member
    have marks : ∀ mark ∈ ['-', '0', '1'], CharData.isSpace mark = false := by
      intro mark known
      have checked : ∀ mark ∈ ['-', '0', '1'], mark.toNat < 0x80 ∧ asciiSpace mark = false :=
        Text.forall_listed (by decide)
      rw [CharData.isSpace_ascii mark (checked mark known).1, (checked mark known).2]
    rw [text] at member
    simp only [List.mem_append, List.mem_cons, List.not_mem_nil, or_false] at member
    rcases member with (rfl | rfl) | rfl | inId | rfl | inSpan | rfl | rfl | rfl
    · exact marks _ (by decide)
    · exact marks _ (by decide)
    · exact marks _ (by decide)
    · exact (hexId.plain inId).visible
    · exact marks _ (by decide)
    · exact (spanPlain c inSpan).visible
    · exact marks _ (by decide)
    · exact marks _ (by decide)
    · exact marks _ (by decide)
  have fields : (traceparentFromTraceId id fresh span).toList.splitOn '-' =
      [['0', '0'], id.toList, span.hex.toList.take 16, ['0', '1']] := by
    rw [text, splitOn_cut (by decide), splitOn_cut fun member => (hexId.plain member).apart rfl,
      splitOn_cut fun member => (spanPlain _ member).apart rfl, List.splitOn_eq_singleton (by decide)]
  have matched : id.toList.length = 32 ∧ id.toList.all hexChar :=
    ⟨hexId.1, List.all_eq_true.2 fun c member => (hexId.plain member).hex⟩
  have lowered : Text.lower id = id := by
    have same : id.toList.flatMap CharData.lower = id.toList.flatMap fun c => [c] :=
      List.flatMap_congr fun c member => (hexId.plain member).lower
    rw [Text.lower, same, List.flatMap_singleton', String.ofList_toList]
  rw [traceIdFromTraceparent, strip_of_visible visible, fields]
  dsimp only
  rw [if_pos matched, String.ofList_toList, lowered]

/-- The bound identifier is never empty. -/
theorem bound_ne_empty (request : Request) (draws : Draws) : (bound request draws).traceId ≠ "" := by
  rw [bound, normalizeTraceContext]
  dsimp only
  refine either_ne_empty (either_ne_empty ?_)
  exact (hexId_hex draws.trace).ne_empty

/-- An identifier is bound exactly when the trace is continued, or no request names itself, or its name is one. -/
theorem hexId_bound_iff (request : Request) (draws : Draws) : HexId (bound request draws).traceId ↔
    traceIdFromTraceparent (request.traceparent.getD "") ≠ "" ∨ cleanToken (request.requestId.getD "") = "" ∨
      HexId (cleanToken (request.requestId.getD "")) := by
  rw [bound, normalizeTraceContext]
  dsimp only
  by_cases continued : traceIdFromTraceparent (request.traceparent.getD "") = ""
  · rw [continued, cleanToken_empty, either_empty]
    by_cases unnamed : cleanToken (request.requestId.getD "") = ""
    · rw [unnamed, either_empty]
      exact iff_of_true (hexId_hex _) (Or.inr (Or.inl rfl))
    · rw [either_eq_self unnamed]
      simp [unnamed]
  · have hexId := hexId_traceIdFromTraceparent continued
    rw [cleanToken_of_hexId hexId, either_eq_self continued]
    exact iff_of_true hexId (Or.inl continued)

/-- The emitted header is read back as the bound identifier exactly when the request continues a trace, does not name
itself, or names itself by an identifier. -/
theorem traceparent_reads_back_iff (request : Request) (endpoint : TraceContext → Response) (draws : Draws)
    (unset : (endpoint (bound request draws)).traceparent = none) :
    (∃ emitted, (dispatch request endpoint draws).traceparent = some emitted ∧ traceIdFromTraceparent emitted ≠ "" ∧
      traceIdFromTraceparent emitted = (bound request draws).traceId) ↔
    traceIdFromTraceparent (request.traceparent.getD "") ≠ "" ∨ cleanToken (request.requestId.getD "") = "" ∨
      HexId (cleanToken (request.requestId.getD "")) := by
  have emits : (dispatch request endpoint draws).traceparent =
      some (traceparentFromTraceId (bound request draws).traceId draws.fallback draws.span) := by
    rw [dispatch, unset]
    rfl
  rw [← hexId_bound_iff request draws, emits]
  constructor
  · rintro ⟨emitted, same, accepted, reads⟩
    rw [← reads]
    exact hexId_traceIdFromTraceparent accepted
  · intro hexId
    have reads := traceIdFromTraceparent_of_hexId hexId draws.fallback draws.span
    refine ⟨_, rfl, ?_, reads⟩
    rw [reads]
    exact bound_ne_empty request draws

end Trace

section Demo
attribute [local instance] CharData.ascii

private def draws : Draws := ⟨⟨1⟩, ⟨2⟩, ⟨3⟩⟩

private def silent (_ : TraceContext) : Response := {}

theorem traceparent_reads_back_unnamed : (silent (bound {} draws)).traceparent = none ∧
    ∃ emitted, (dispatch {} silent draws).traceparent = some emitted ∧ traceIdFromTraceparent emitted ≠ "" ∧
      traceIdFromTraceparent emitted = (bound {} draws).traceId :=
  ⟨rfl, (traceparent_reads_back_iff {} silent draws rfl).2 (Or.inr (Or.inl cleanToken_empty))⟩

/-- A request that calls itself `req-1` cuts the header in a wrong place. -/
theorem traceparent_cut : (bound { requestId := some "req-1" } draws).traceId = "req-1" ∧
    (dispatch { requestId := some "req-1" } silent draws).traceparent =
      some "00-req-1000000000000000000000000000-0000000000000000-01" ∧
    traceIdFromTraceparent "00-req-1000000000000000000000000000-0000000000000000-01" = "" ∧
    ¬∃ emitted, (dispatch { requestId := some "req-1" } silent draws).traceparent = some emitted ∧
      traceIdFromTraceparent emitted ≠ "" ∧
      traceIdFromTraceparent emitted = (bound { requestId := some "req-1" } draws).traceId := by
  have emits : (dispatch { requestId := some "req-1" } silent draws).traceparent =
      some "00-req-1000000000000000000000000000-0000000000000000-01" := by decide +kernel
  have refused : traceIdFromTraceparent "00-req-1000000000000000000000000000-0000000000000000-01" = "" := by
    decide +kernel
  refine ⟨by decide +kernel, emits, refused, ?_⟩
  rintro ⟨emitted, same, accepted, _⟩
  rw [emits, Option.some.injEq] at same
  rw [← same] at accepted
  exact accepted refused

end Demo

end SoulClaw.Infra.Trace
