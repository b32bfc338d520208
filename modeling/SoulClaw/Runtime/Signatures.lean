import SoulClaw.Runtime.Gateway

/-! What the signature of a public webhook binds. The signed text joins the timestamp, the
nonce and the text with dots, and all three may contain dots. -/

namespace SoulClaw.Runtime.Signatures
open Foundation Gateway

/-- What the holder of the secret signs. -/
structure SignedMessage where
  timestamp : String
  nonce : String
  text : String
  deriving DecidableEq

namespace SignedMessage

def signedText (signed : SignedMessage) : String :=
  Gateway.signedText signed.timestamp signed.nonce signed.text

variable [TimestampData]

/-- Timestamp and nonce are there, and the timestamp is a number. -/
structure Valid (signed : SignedMessage) : Prop where
  timestamp : signed.timestamp ≠ ""
  nonce : signed.nonce ≠ ""
  parses : TimestampData.parse signed.timestamp ≠ none

/-- No dot of the signed text is one at which another timestamp or nonce could end. -/
structure Unambiguous (signed : SignedMessage) : Prop where
  text : '.' ∉ signed.text.toList
  nonce : '.' ∉ signed.nonce.toList.drop 1
  /-- A shorter timestamp is no number. -/
  timestamp : ∀ start rest, signed.timestamp = start ++ "." ++ rest →
    start = "" ∨ TimestampData.parse start = none
  /-- A dot at the start of the nonce does not belong to a longer timestamp. -/
  dotted : ∀ rest, signed.nonce = "." ++ rest →
    rest = "" ∨ TimestampData.parse (signed.timestamp ++ ".") = none

omit [TimestampData] in
theorem toList_signedText {signed : SignedMessage} (timestamp : signed.timestamp ≠ "") :
    signed.signedText.toList =
      signed.timestamp.toList ++ '.' :: (signed.nonce.toList ++ '.' :: signed.text.toList) := by
  rw [signedText, Gateway.signedText, if_pos (.inl timestamp)]
  simp [String.toList_append]

/-! Other messages with the same signed text. -/

omit [TimestampData] in
/-- Two messages whose characters are joined to the same ones. -/
theorem signedText_eq {first second : SignedMessage} (firstStamp : first.timestamp ≠ "")
    (secondStamp : second.timestamp ≠ "")
    (same : first.timestamp.toList ++ '.' :: (first.nonce.toList ++ '.' :: first.text.toList) =
      second.timestamp.toList ++ '.' :: (second.nonce.toList ++ '.' :: second.text.toList)) :
    first.signedText = second.signedText := by
  apply String.toList_injective
  rw [toList_signedText firstStamp, toList_signedText secondStamp, same]

omit [TimestampData] in
theorem eq_of_toList {first second : SignedMessage}
    (timestamp : first.timestamp.toList = second.timestamp.toList)
    (nonce : first.nonce.toList = second.nonce.toList) (text : first.text.toList = second.text.toList) :
    first = second := by
  obtain ⟨_, _, _⟩ := first
  obtain ⟨_, _, _⟩ := second
  rw [mk.injEq]
  exact ⟨String.toList_injective timestamp, String.toList_injective nonce, String.toList_injective text⟩

/-- No other message has the signed text of this one. -/
def Binds (signed : SignedMessage) : Prop :=
  ∀ other : SignedMessage, other.Valid → other.signedText = signed.signedText → other = signed

omit [TimestampData] in
theorem ne_empty_of_toList {text : String} {c : Char} {rest : List Char} (chars : text.toList = c :: rest) :
    text ≠ "" := by
  rintro rfl
  cases chars

/-- A dot in the text can be read as one of the nonce. -/
theorem Binds.text {signed : SignedMessage} (valid : signed.Valid) (binds : signed.Binds) :
    '.' ∉ signed.text.toList := by
  intro member
  obtain ⟨start, rest, split⟩ := List.append_of_mem member
  have other : (⟨signed.timestamp, signed.nonce ++ "." ++ String.ofList start, String.ofList rest⟩ :
      SignedMessage) = signed := by
    apply binds
    · refine ⟨valid.timestamp, ?_, valid.parses⟩
      intro empty
      have chars := congrArg String.toList empty
      simp [String.toList_append] at chars
    · refine signedText_eq valid.timestamp valid.timestamp ?_
      simp [String.toList_append, split]
  have nonce := congrArg (fun message => message.nonce.toList.length) other
  simp [String.toList_append] at nonce

/-- A dot in the nonce, behind its first character, can be read as the end of the nonce. -/
theorem Binds.nonce {signed : SignedMessage} (valid : signed.Valid) (binds : signed.Binds) :
    '.' ∉ signed.nonce.toList.drop 1 := by
  intro member
  obtain ⟨start, rest, split⟩ := List.append_of_mem member
  cases chars : signed.nonce.toList with
  | nil =>
    rw [chars] at member
    cases member
  | cons c tail =>
    rw [chars, List.drop_one, List.tail_cons] at split
    have other : (⟨signed.timestamp, String.ofList (c :: start), String.ofList rest ++ "." ++ signed.text⟩ :
        SignedMessage) = signed := by
      apply binds
      · exact ⟨valid.timestamp, ne_empty_of_toList String.toList_ofList, valid.parses⟩
      · refine signedText_eq valid.timestamp valid.timestamp ?_
        simp [String.toList_append, chars, split]
    have nonce := congrArg (fun message => message.nonce.toList.length) other
    simp [chars, split] at nonce

/-- A shorter timestamp leaves the rest to the nonce. -/
theorem Binds.timestamp {signed : SignedMessage} (valid : signed.Valid) (binds : signed.Binds)
    (start rest : String) (split : signed.timestamp = start ++ "." ++ rest) :
    start = "" ∨ TimestampData.parse start = none := by
  by_contra neither
  obtain ⟨some, parses⟩ := not_or.1 neither
  have other : (⟨start, rest ++ "." ++ signed.nonce, signed.text⟩ : SignedMessage) = signed := by
    apply binds
    · refine ⟨some, ?_, parses⟩
      intro empty
      have chars := congrArg String.toList empty
      simp [String.toList_append] at chars
    · refine signedText_eq some valid.timestamp ?_
      simp [String.toList_append, split]
  have timestamp := congrArg (fun message => message.timestamp.toList.length) other
  simp [String.toList_append, split] at timestamp

/-- A dot at the start of the nonce can be read as the end of a longer timestamp. -/
theorem Binds.dotted {signed : SignedMessage} (valid : signed.Valid) (binds : signed.Binds)
    (rest : String) (split : signed.nonce = "." ++ rest) :
    rest = "" ∨ TimestampData.parse (signed.timestamp ++ ".") = none := by
  by_contra neither
  obtain ⟨some, parses⟩ := not_or.1 neither
  have longer : signed.timestamp ++ "." ≠ "" := by
    intro empty
    have chars := congrArg String.toList empty
    simp [String.toList_append] at chars
  have other : (⟨signed.timestamp ++ ".", rest, signed.text⟩ : SignedMessage) = signed := by
    apply binds
    · exact ⟨longer, some, parses⟩
    · refine signedText_eq longer valid.timestamp ?_
      simp [String.toList_append, split]
  have timestamp := congrArg (fun message => message.timestamp.toList.length) other
  simp [String.toList_append] at timestamp

/-! The other direction: where another message could be cut. -/

omit [TimestampData] in
theorem split_of_toList {text : String} {start rest : List Char} (chars : text.toList = start ++ '.' :: rest) :
    text = String.ofList start ++ "." ++ String.ofList rest := by
  apply String.toList_injective
  simp [String.toList_append, chars]

omit [TimestampData] in
theorem dot_behind_first {text : String} (some : text ≠ "") (rest : List Char) :
    '.' ∈ (text.toList ++ '.' :: rest).drop 1 := by
  cases chars : text.toList with
  | nil => exact absurd (String.toList_eq_nil_iff.1 chars) some
  | cons c tail => simp

/-- The other timestamp ends behind the first dot of the nonce. -/
theorem Unambiguous.not_longer {signed other : SignedMessage} (clear : signed.Unambiguous)
    (valid : other.Valid) (longer : other.timestamp.toList = signed.timestamp.toList ++ ['.'])
    {piece : List Char} (nonce : signed.nonce.toList = '.' :: piece)
    (tails : piece ++ '.' :: signed.text.toList = other.nonce.toList ++ '.' :: other.text.toList) : False := by
  have grown : other.timestamp = signed.timestamp ++ "." := by
    apply String.toList_injective
    rw [longer, String.toList_append]
    rfl
  have dotted : signed.nonce = "." ++ String.ofList piece := by
    apply String.toList_injective
    simp [String.toList_append, nonce]
  rcases clear.dotted _ dotted with empty | unparsed
  · have none : piece = [] := by simpa using congrArg String.toList empty
    rw [none, List.nil_append] at tails
    cases chars : other.nonce.toList with
    | nil => exact valid.nonce (String.toList_eq_nil_iff.1 chars)
    | cons c rest =>
      rw [chars, List.cons_append] at tails
      exact clear.text ((List.cons.inj tails).2 ▸ by simp)
  · exact valid.parses (grown ▸ unparsed)

theorem Unambiguous.binds {signed : SignedMessage} (clear : signed.Unambiguous) (valid : signed.Valid) :
    signed.Binds := by
  intro other validOther same
  have chars := congrArg String.toList same
  rw [toList_signedText validOther.timestamp, toList_signedText valid.timestamp] at chars
  rcases Text.cut_eq_cut_iff.1 chars with ⟨timestamp, tails⟩ | ⟨middle, longer, _⟩ | ⟨middle, shorter, tails⟩
  · rcases Text.cut_eq_cut_iff.1 tails with ⟨nonce, text⟩ | ⟨piece, nonce, _⟩ | ⟨piece, _, text⟩
    · exact eq_of_toList timestamp nonce text
    · exact absurd (nonce ▸ dot_behind_first validOther.nonce piece) clear.nonce
    · exact absurd (text ▸ by simp) clear.text
  · have split := split_of_toList longer
    rw [String.ofList_toList] at split
    rcases clear.timestamp _ _ split with empty | unparsed
    · exact absurd empty validOther.timestamp
    · exact absurd unparsed validOther.parses
  · rcases Text.cut_eq_cut_iff.1 tails with ⟨_, text⟩ | ⟨piece, _, text⟩ | ⟨piece, nonce, rest⟩
    · exact absurd (text ▸ by simp) clear.text
    · exact absurd (text ▸ by simp) clear.text
    · cases middle with
      | nil => exact (clear.not_longer validOther shorter nonce rest.symm).elim
      | cons c middle =>
        refine absurd ?_ clear.nonce
        rw [nonce]
        simp

end SignedMessage

/-! The verification. -/

section Verification
variable [CharData] [TimestampData] {manager : GatewayRuntimeManager} {hmacSha256 : String → String → String}

def signedMessage (message : InboundGatewayMessage) : SignedMessage :=
  ⟨message.timestamp, message.nonce, message.text⟩

/-- A captured signature is the one of an accepted request, only if the signed texts agree. -/
theorem signedText_of_accepted (injective : ∀ secret, Function.Injective (hmacSha256 secret))
    {gateway after : GatewayConnection} {now : Rat} {message : InboundGatewayMessage}
    {signed : SignedMessage} (isPublic : message.publicWebhook = true)
    (captured : message.signature = hmacSha256 (secretOf gateway) signed.signedText)
    (accepted : verifySignature manager hmacSha256 gateway now message = .ok after) :
    (signedMessage message).Valid ∧ (signedMessage message).signedText = signed.signedText := by
  obtain ⟨window, signature, _⟩ := verifySignature_public isPublic accepted
  obtain ⟨timestamp, nonce, stamp, parsed, _⟩ := verifyReplayWindow_ok window
  refine ⟨⟨timestamp, nonce, fun unparsed => by cases parsed.symm.trans unparsed⟩, ?_⟩
  exact injective _ (signature.symm.trans captured)

/-- The signature of a message can be used for this message alone, exactly if none of its dots
is one at which the timestamp or the nonce could end as well. -/
theorem signature_binds_iff (injective : ∀ secret, Function.Injective (hmacSha256 secret))
    {signed : SignedMessage} (valid : signed.Valid) :
    ((∀ gateway now message after, message.publicWebhook = true →
        message.signature = hmacSha256 (secretOf gateway) signed.signedText →
        verifySignature manager hmacSha256 gateway now message = .ok after →
        signedMessage message = signed) ∧
      ∀ other : SignedMessage, other.Valid → other ≠ signed → other.signedText ≠ signed.signedText) ↔
    signed.Unambiguous := by
  constructor
  · intro ⟨_, distinct⟩
    have binds : signed.Binds := by
      intro other validOther same
      by_contra different
      exact distinct other validOther different same
    exact ⟨binds.text valid, binds.nonce valid, binds.timestamp valid, binds.dotted valid⟩
  · intro clear
    have binds := clear.binds valid
    refine ⟨?_, fun other validOther different same => different (binds other validOther same)⟩
    intro gateway now message after isPublic captured accepted
    obtain ⟨validMessage, same⟩ := signedText_of_accepted injective isPublic captured accepted
    exact binds _ validMessage same

end Verification

/-! Signatures under the key `secret`. -/

section Captured
attribute [local instance] CharData.ascii TimestampData.decimal

/-- The digests of two signed texts; others stand for themselves. -/
def webhookHmac (secret text : String) : String :=
  if secret = "secret" ∧ text = "1700000000.n-1.hello" then
    "4f3267ea23a582b6d788daee0ee6883c5625ecf452b48b6bcfe6518f16add8a1"
  else if secret = "secret" ∧ text = "1700000000.n-1.hello.world" then
    "a629d69852f5c1938bb748dc31f515f7c5e87b509f13043f65cfbb15cee7fff2"
  else "hmac:" ++ text

theorem webhookHmac_injective (secret : String) : Function.Injective (webhookHmac secret) := by
  have other : ∀ digest text : String, digest.toList.head? ≠ some 'h' → digest ≠ "hmac:" ++ text := by
    rintro digest text first rfl
    exact first (by simp [String.toList_append])
  intro first second same
  unfold webhookHmac at same
  split_ifs at same with here there last here there last here there
  · exact here.2.trans there.2.symm
  · exact absurd same (by decide)
  · exact absurd same (other _ _ (by decide))
  · exact absurd same (by decide)
  · exact here.2.trans last.2.symm
  · exact absurd same (other _ _ (by decide))
  · exact absurd same.symm (other _ _ (by decide))
  · exact absurd same.symm (other _ _ (by decide))
  · have chars := congrArg String.toList same
    rw [String.toList_append, String.toList_append] at chars
    exact String.toList_injective (List.append_cancel_left chars)

def greeting : SignedMessage := ⟨"1700000000", "n-1", "hello"⟩

/-- The signature of a greeting without a dot is good for this greeting alone. -/
theorem signature_binds_greeting : greeting.Unambiguous ∧
    ∀ gateway now message after, message.publicWebhook = true →
      message.signature = webhookHmac (secretOf gateway) greeting.signedText →
      verifySignature {} webhookHmac gateway now message = .ok after →
      signedMessage message = greeting := by
  have valid : greeting.Valid := ⟨by decide, by decide, by decide +kernel⟩
  have clear : greeting.Unambiguous := by
    refine ⟨by decide, by decide, ?_, ?_⟩
    · intro start rest split
      have member : '.' ∈ greeting.timestamp.toList := by
        rw [split]
        simp [String.toList_append]
      exact absurd member (by decide)
    · intro rest split
      have member : '.' ∈ greeting.nonce.toList := by
        rw [split]
        simp [String.toList_append]
      exact absurd member (by decide)
  exact ⟨clear, ((signature_binds_iff webhookHmac_injective valid).2 clear).1⟩

/-- A webhook with the signature of the text `hello.world`. -/
def capturedMessage (nonce text : String) : InboundGatewayMessage where
  gatewayName := "hook"
  text := text
  metadata := [("timestamp", .str "1700000000"), ("nonce", .str nonce),
    ("signature", .str "a629d69852f5c1938bb748dc31f515f7c5e87b509f13043f65cfbb15cee7fff2"),
    ("public_webhook", .bool true)]

def hook (nonces : List Dict) : GatewayConnection where
  name := "hook"
  kind := "webhook"
  config := [("secret", .str "secret"), ("nonce_cache", .arr (nonces.map .obj))]
  enabled := true

/-- With the signature of the first message, a second one with another nonce and another text
is accepted as well. -/
theorem captured_signature_reused :
    (∀ secret, Function.Injective (webhookHmac secret)) ∧
    (capturedMessage "n-1.hello" "world").signature = (capturedMessage "n-1" "hello.world").signature ∧
    (signedMessage (capturedMessage "n-1" "hello.world")).Valid ∧
    signedMessage (capturedMessage "n-1.hello" "world") ≠ signedMessage (capturedMessage "n-1" "hello.world") ∧
    verifySignature {} webhookHmac (hook []) 1700000000 (capturedMessage "n-1" "hello.world") =
      .ok (hook [nonceEntry "1700000000" "n-1"]) ∧
    verifySignature {} webhookHmac (hook [nonceEntry "1700000000" "n-1"]) 1700000001
        (capturedMessage "n-1.hello" "world") =
      .ok (hook [nonceEntry "1700000000" "n-1", nonceEntry "1700000000" "n-1.hello"]) := by
  refine ⟨webhookHmac_injective, ?_, ⟨?_, ?_, ?_⟩, ?_, ?_, ?_⟩
  · decide +kernel
  · decide +kernel
  · decide +kernel
  · decide +kernel
  · decide +kernel
  · decide +kernel
  · decide +kernel

end Captured

end SoulClaw.Runtime.Signatures
