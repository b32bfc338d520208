import SoulClaw.Foundation.Base64
import SoulClaw.Foundation.Keyed
import SoulClaw.Foundation.Uuid
import Std.Data.String.ToInt

/-! Accounts and their passwords. A password is stored as the text of a salt and of the digest that it has under that
salt; the account of the administrator is brought in line with the settings whenever the application starts. -/

namespace SoulClaw.Infra.Security
open Foundation

/-- The digest of `hashlib.pbkdf2_hmac("sha256", password, salt, iterations)`. -/
class DigestData where
  digest : List UInt8 → List UInt8 → Nat → List UInt8

/-- What `Settings` holds for accounts. -/
structure Settings where
  adminUsername : String := "admin"
  adminPassword : String := "soulclaw-admin"
  jwtSecret : String := "change-me-for-production"
  jwtAlgorithm : String := "HS256"
  jwtAccessTokenMinutes : Int := 60 * 12
  loginRateLimitEnabled : Bool := true
  deriving DecidableEq, Repr

structure User where
  id : Uuid
  username : String
  passwordHash : String
  role : String := "admin"
  isActive : Bool := true
  deriving DecidableEq, Repr

/-- The table `users`; the names are unique. -/
abbrev Users := Keyed User.username

def pbkdf2Iterations : Nat := 260000

def algorithmName : String := "pbkdf2_sha256"

/-- `text.encode("utf-8")`. -/
def encodeUtf8 (text : String) : List UInt8 := text.toList.flatMap String.utf8EncodeChar

/-- `text.split(separator, most)`. -/
def splitMost (separator : Char) : Nat → List Char → List (List Char)
  | 0, text => [text]
  | most + 1, text =>
      match text.dropWhile fun c => c ≠ separator with
      | [] => [text]
      | _ :: rest => (text.takeWhile fun c => c ≠ separator) :: splitMost separator most rest

/-- `_b64`. -/
def b64 (data : List UInt8) : List Char := Base64.unpad (Base64.encode data)

/-- `_unb64`, which raises a `ValueError` where this is `none`. -/
def unb64 (text : List Char) : Option (List UInt8) := Base64.decode (Base64.pad text)

section Passwords
variable [DigestData]

/-- `hashlib.pbkdf2_hmac`. -/
def pbkdf2Hmac (password salt : List UInt8) (iterations : Int) : Except PyException (List UInt8) :=
  if iterations < 1 then .error ⟨.valueError, "iteration value must be greater than 0."⟩
  else if iterations > 2 ^ 31 - 1 then .error ⟨.overflowError, "iteration value is too great."⟩
  else .ok (DigestData.digest password salt iterations.toNat)

/-- `hash_password`, with the salt that `os.urandom` gives. -/
def hashPassword (salt : List UInt8) (password : String) : Except PyException String :=
  match pbkdf2Hmac (encodeUtf8 password) salt pbkdf2Iterations with
  | .error raised => .error raised
  | .ok digest =>
      .ok (String.ofList (algorithmName.toList ++ '$' :: ((toString pbkdf2Iterations).toList ++ '$' :: (b64 salt ++
        '$' :: b64 digest))))

/-- `verify_password`. -/
def verifyPassword [NumberData] (password encoded : String) : Except PyException Bool :=
  match splitMost '$' 3 encoded.toList with
  | [algorithm, iterationsRaw, saltRaw, digestRaw] =>
      if algorithm ≠ algorithmName.toList then .ok false
      else
        match NumberData.intOfText (String.ofList iterationsRaw), unb64 saltRaw, unb64 digestRaw with
        | some iterations, some salt, some expected =>
            -- What the digest raises is not caught.
            match pbkdf2Hmac (encodeUtf8 password) salt iterations with
            | .error raised => .error raised
            | .ok actual => .ok (actual = expected)
        | _, _, _ => .ok false
  | _ => .ok false

/-- `user.is_active = True`. -/
def activate : KeptChange User.username := ⟨fun user => { user with isActive := true }, fun _ => rfl⟩

/-- `user.password_hash = hash`. -/
def setHash (hash : String) : KeptChange User.username := ⟨fun user => { user with passwordHash := hash }, fun _ => rfl⟩

/-- `ensure_admin_user`, with the identifier that a new user gets; identifiers are unique too. -/
def ensureAdminUser [NumberData] (settings : Settings) (salt : List UInt8) (id : Uuid) (users : Users) :
    Except PyException Users :=
  match hashPassword salt settings.adminPassword with
  | .error raised => .error raised
  | .ok hash =>
      match users.find? settings.adminUsername with
      | none =>
          if id ∈ users.rows.map User.id then .error ⟨.integrityError, "UNIQUE constraint failed: users.id"⟩
          else
            match users.insert? ⟨id, settings.adminUsername, hash, "admin", true⟩ with
            | none => .error ⟨.integrityError, "UNIQUE constraint failed: users.username"⟩
            | some users => .ok users
      | some user =>
          let users := if user.isActive then users else users.modify user.username activate
          match verifyPassword settings.adminPassword user.passwordHash with
          | .error raised => .error raised
          | .ok true => .ok users
          | .ok false => .ok (users.modify user.username (setHash hash))

end Passwords

/-! The stored text is taken apart again. -/

theorem splitMost_zero (separator : Char) (text : List Char) : splitMost separator 0 text = [text] := rfl

theorem splitMost_append {separator : Char} {first : List Char} (free : separator ∉ first) (most : Nat)
    (rest : List Char) :
    splitMost separator (most + 1) (first ++ separator :: rest) = first :: splitMost separator most rest := by
  have kept : ∀ c ∈ first, decide (c ≠ separator) = true :=
    fun c member => decide_eq_true fun same => free (same ▸ member)
  have drop : (first ++ separator :: rest).dropWhile (fun c => c ≠ separator) = separator :: rest := by
    rw [List.dropWhile_append_of_pos kept, List.dropWhile_cons_of_neg (by simp)]
  have take : (first ++ separator :: rest).takeWhile (fun c => c ≠ separator) = first := by
    rw [List.takeWhile_append_of_pos kept, List.takeWhile_cons_of_neg (by simp), List.append_nil]
  rw [splitMost, drop, take]

theorem dollar_notMem_b64 (data : List UInt8) : '$' ∉ b64 data := by
  intro member
  exact absurd (Base64.sextet_of_unpad member) (by decide)

theorem dollar_notMem_name : '$' ∉ algorithmName.toList := by decide

theorem dollar_notMem_iterations : '$' ∉ (toString pbkdf2Iterations).toList := by
  intro member
  have digits : '$' ∈ Nat.toDigits 10 pbkdf2Iterations := by
    rw [← Nat.toList_repr]
    exact member
  exact absurd (Nat.isDigit_of_mem_toDigits (by decide) (by decide) digits) (by decide)

theorem unb64_b64 (data : List UInt8) : unb64 (b64 data) = some data := Base64.decode_pad_unpad_encode data

/-! What is accepted under a stored password. -/

section Verification
variable [DigestData]

/-- The digest of a password as it is stored. -/
def digestOf (salt : List UInt8) (password : String) : List UInt8 :=
  DigestData.digest (encodeUtf8 password) salt pbkdf2Iterations

theorem pbkdf2Hmac_iterations (password salt : List UInt8) :
    pbkdf2Hmac password salt pbkdf2Iterations = .ok (DigestData.digest password salt pbkdf2Iterations) := by
  rw [pbkdf2Hmac, if_neg (by decide), if_neg (by decide), Int.toNat_natCast]

/-- The text that is stored for a password. -/
def storedText (salt : List UInt8) (password : String) : String :=
  String.ofList (algorithmName.toList ++ '$' :: ((toString pbkdf2Iterations).toList ++ '$' :: (b64 salt ++
    '$' :: b64 (digestOf salt password))))

theorem hashPassword_eq (salt : List UInt8) (password : String) :
    hashPassword salt password = .ok (storedText salt password) := by
  rw [hashPassword, pbkdf2Hmac_iterations]
  rfl

theorem split_storedText (salt : List UInt8) (password : String) :
    splitMost '$' 3 (storedText salt password).toList =
      [algorithmName.toList, (toString pbkdf2Iterations).toList, b64 salt, b64 (digestOf salt password)] := by
  rw [storedText, String.toList_ofList, splitMost_append dollar_notMem_name,
    splitMost_append dollar_notMem_iterations, splitMost_append (dollar_notMem_b64 salt), splitMost_zero]

variable [NumberData]

/-- A password is accepted if its digest is that of the stored one. -/
theorem verifyPassword_storedText
    (reads : NumberData.intOfText (toString pbkdf2Iterations) = some (pbkdf2Iterations : Int))
    (salt : List UInt8) (password candidate : String) :
    verifyPassword candidate (storedText salt password) =
      .ok (decide (digestOf salt candidate = digestOf salt password)) := by
  rw [verifyPassword, split_storedText]
  simp only [ne_eq, not_true_eq_false, if_false]
  rw [String.ofList_toList, reads, unb64_b64, unb64_b64]
  simp only [pbkdf2Hmac_iterations]
  rfl

/-- A stored text accepts the passwords that have the digest of a given one. -/
def Accepts (encoded password : String) : Prop :=
  ∃ salt iterations, ∀ candidate, verifyPassword candidate encoded =
    .ok (decide (DigestData.digest (encodeUtf8 candidate) salt iterations =
      DigestData.digest (encodeUtf8 password) salt iterations))

theorem accepts_storedText
    (reads : NumberData.intOfText (toString pbkdf2Iterations) = some (pbkdf2Iterations : Int))
    (salt : List UInt8) (password : String) : Accepts (storedText salt password) password :=
  ⟨salt, pbkdf2Iterations, verifyPassword_storedText reads salt password⟩

/-- Whatever text is stored, the password that it accepts stands for all that it accepts. -/
theorem accepts_of_verified {password encoded : String} (verified : verifyPassword password encoded = .ok true) :
    Accepts encoded password := by
  unfold verifyPassword at verified
  split at verified
  next algorithm iterationsRaw saltRaw digestRaw shape =>
    by_cases other : algorithm ≠ algorithmName.toList
    · rw [if_pos other] at verified
      cases verified
    rw [if_neg other] at verified
    split at verified
    next iterations salt expected number decoded wanted =>
      by_cases few : iterations < 1
      · rw [pbkdf2Hmac, if_pos few] at verified
        cases verified
      by_cases many : iterations > 2 ^ 31 - 1
      · rw [pbkdf2Hmac, if_neg few, if_pos many] at verified
        cases verified
      have digests : ∀ candidate, pbkdf2Hmac (encodeUtf8 candidate) salt iterations =
          .ok (DigestData.digest (encodeUtf8 candidate) salt iterations.toNat) := by
        intro candidate
        rw [pbkdf2Hmac, if_neg few, if_neg many]
      rw [digests] at verified
      have same : DigestData.digest (encodeUtf8 password) salt iterations.toNat = expected := by
        simpa using verified
      refine ⟨salt, iterations.toNat, fun candidate => ?_⟩
      rw [verifyPassword, shape]
      simp only [other, if_false, number, decoded, wanted, digests, same]
    next => cases verified
  next => cases verified

end Verification

/-! The account of the administrator. -/

/-- The identifiers and the names of the accounts. -/
def named (users : Users) : List (Uuid × String) := users.rows.map fun row => (row.id, row.username)

theorem mem_named {users : Users} {user : User} (member : user ∈ users.rows) : (user.id, user.username) ∈ named users :=
  List.mem_map.2 ⟨user, member, rfl⟩

section Administrator
variable [DigestData] [NumberData] {settings : Settings} {salt : List UInt8} {id : Uuid} {users next : Users}

/-- What a start of the application does to the accounts: that of the administrator is there, active and accepts the
configured password; the others are as before, and no account changes its identifier. -/
structure Ensured (settings : Settings) (id : Uuid) (users next : Users) (user : User) : Prop where
  found : ∀ name, next.find? name = if name = settings.adminUsername then some user else users.find? name
  active : user.isActive = true
  accepts : Accepts user.passwordHash settings.adminPassword
  named : named next = named users ∨
    named next = named users ++ [(id, settings.adminUsername)] ∧ id ∉ users.rows.map User.id

omit [DigestData] [NumberData] in
theorem named_modify (users : Users) (name : String) (change : KeptChange User.username)
    (kept : ∀ row, (change.apply row).id = row.id) :
    named (users.modify name change) = named users := by
  show (Keyed.modifyRows users.rows name change).map _ = _
  rw [Keyed.modifyRows, List.map_map]
  apply List.map_congr_left
  intro row _
  show ((if row.username = name then change.apply row else row).id,
    (if row.username = name then change.apply row else row).username) = _
  split_ifs
  · rw [kept, change.keeps]
  · rfl

omit [DigestData] [NumberData] in
theorem find?_activated (users : Users) {user : User} (known : users.find? user.username = some user) (name : String) :
    (if user.isActive then users else users.modify user.username activate).find? name =
      if name = user.username then some (activate.apply user) else users.find? name := by
  split_ifs with active same same
  · have unchanged : activate.apply user = user := by
      show ({ user with isActive := true } : User) = user
      rw [← active]
    rw [unchanged, same, known]
  · rfl
  · rw [Keyed.find?_modify, if_pos same, known]
    rfl
  · rw [Keyed.find?_modify, if_neg same]

theorem ensureAdminUser_spec
    (reads : NumberData.intOfText (toString pbkdf2Iterations) = some (pbkdf2Iterations : Int))
    (done : ensureAdminUser settings salt id users = .ok next) : ∃ user, Ensured settings id users next user := by
  unfold ensureAdminUser at done
  simp only [hashPassword_eq] at done
  cases known : users.find? settings.adminUsername with
  | none =>
    simp only [known] at done
    split_ifs at done with taken
    cases inserted : users.insert? ⟨id, settings.adminUsername, storedText salt settings.adminPassword, "admin", true⟩ with
    | none =>
      rw [inserted] at done
      cases done
    | some added =>
      rw [inserted] at done
      obtain rfl := Except.ok.inj done
      obtain ⟨free, rows⟩ := Keyed.rows_of_insert? inserted
      refine ⟨⟨id, settings.adminUsername, storedText salt settings.adminPassword, "admin", true⟩, ?_, rfl,
        accepts_storedText reads _ _, .inr ⟨?_, taken⟩⟩
      · intro name
        rw [Keyed.find?, rows, List.find?_append]
        split_ifs with same
        · rw [same]
          have absent : users.rows.find? (fun row => row.username = settings.adminUsername) = none := known
          rw [absent]
          simp
        · have other : settings.adminUsername ≠ name := fun equal => same equal.symm
          simp [other, Keyed.find?]
      · rw [named, rows, List.map_append]
        rfl
  | some user =>
    have own : user.username = settings.adminUsername := (Keyed.find?_eq_some_iff.1 known).2
    rw [← own] at known
    simp only [← own, known] at done
    have found := find?_activated users known
    have same : named (if user.isActive then users else users.modify user.username activate) = named users := by
      split_ifs
      · rfl
      · exact named_modify users _ activate fun _ => rfl
    generalize (if user.isActive then users else users.modify user.username activate) = activated at done found same
    split at done
    next => cases done
    next verified =>
      obtain rfl := Except.ok.inj done
      refine ⟨activate.apply user, ?_, rfl, ?_, .inl same⟩
      · rw [← own]
        exact found
      · exact accepts_of_verified verified
    next =>
      obtain rfl := Except.ok.inj done
      refine ⟨(setHash (storedText salt settings.adminPassword)).apply (activate.apply user), ?_, rfl, ?_,
        .inl ((named_modify activated _ _ fun _ => rfl).trans same)⟩
      · intro name
        rw [← own, Keyed.find?_modify]
        split_ifs with here
        · rw [found, if_pos rfl]
          rfl
        · rw [found, if_neg here]
      · exact accepts_storedText reads _ _

end Administrator

/-- `int` reads the number of iterations in the stored text. -/
theorem reads_iterations : NumberData.decimal.intOfText (toString pbkdf2Iterations) = some (pbkdf2Iterations : Int) :=
  Nat.toInt?_repr pbkdf2Iterations

end SoulClaw.Infra.Security
