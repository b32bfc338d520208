import SoulClaw.Api.Login
import SoulClaw.Foundation.Histories
import SoulClaw.Foundation.JsonRead
import SoulClaw.Infra.Security

/-! Who is let in: the passwords that `POST /api/auth/login` accepts and the bearer tokens that the other endpoints
accept, over any order of starts of the application, logins and requests. -/

namespace SoulClaw.Api.Accounts
open Foundation Infra.Security Api.Login

/-- `jwt.encode(payload, secret, algorithm)` and, at a time, `jwt.decode(token, secret, [algorithm])`; `none` stands for
an exception. -/
class JwtData where
  encode : Dict → String → String → Option String
  decode : String → String → String → Int → Option Dict

/-- A token is decoded with the secret that it was encoded with, from its `iat` on and before its `exp`. -/
def Documented [TimeData] [NumberData] [JwtData] : Prop :=
  ∀ (payload : Dict) (secret algorithm token subject : String) (issued expires now : Int),
    JwtData.encode payload secret algorithm = some token → Loads.Proper (.obj payload) →
    payload.get "sub" = .str subject → payload.get "iat" = .int issued → payload.get "exp" = .int expires →
    JwtData.decode token secret algorithm now =
      if issued * TimeData.second ≤ now ∧ now < expires * TimeData.second then some payload else none

def missingToken : HttpError := ⟨401, "missing bearer token"⟩

def invalidToken : HttpError := ⟨401, "invalid bearer token"⟩

def invalidSubject : HttpError := ⟨401, "invalid token subject"⟩

def userNotFound : HttpError := ⟨401, "user not found"⟩

/-- What an exception in an endpoint becomes. -/
def internalError : HttpError := ⟨500, "Internal Server Error"⟩

section Model
variable [TimeData] [DigestData] [NumberData] [JwtData] [CharData] [UuidData]

/-- `int(time.timestamp())`. -/
def timestamp (time : Int) : Int := time.tdiv TimeData.second

/-- `issued_at` and the lifetime of a token. -/
def expiry (settings : Settings) (now : Int) : Int := now + settings.jwtAccessTokenMinutes * 60 * TimeData.second

/-- The payload of `create_access_token`. -/
def payloadOf (user : User) (settings : Settings) (now : Int) : Dict :=
  [("sub", .str user.id.str), ("username", .str user.username), ("role", .str user.role),
    ("iat", .int (timestamp now)), ("exp", .int (timestamp (expiry settings now)))]

/-- `create_access_token`. -/
def createAccessToken (user : User) (settings : Settings) (now : Int) : Option String :=
  JwtData.encode (payloadOf user settings now) settings.jwtSecret settings.jwtAlgorithm

/-- `decode_access_token`. -/
def decodeAccessToken (token : String) (settings : Settings) (now : Int) : Option Dict :=
  JwtData.decode token settings.jwtSecret settings.jwtAlgorithm now

/-- `get_current_user`, with the token of the `Authorization` header where it has one. -/
def getCurrentUser (credentials : Option String) (users : Users) (settings : Settings) (now : Int) :
    Except HttpError User :=
  match credentials with
  | none => .error missingToken
  | some token =>
      match decodeAccessToken token settings now with
      | none => .error invalidToken
      | some payload =>
          match Uuid.ofText ((payload.get "sub").or (.str "")).toStr with
          | none => .error invalidSubject
          | some id =>
              match users.rows.find? fun user => user.id = id ∧ user.isActive with
              | none => .error userNotFound
              | some user => .ok user

/-- `login`, with the limiter in front of it; the token is the answer. -/
def login (settings : Settings) (redis : Bool) (users : Users) (limits : Login.World) (client : Option String)
    (username password : String) (now : Int) : Except HttpError String × Login.World :=
  let app : App := ⟨settings.loginRateLimitEnabled, redis⟩
  match app.checkLoginRateLimit limits ⟨client, now, false⟩ with
  | .error raised => (.error raised, limits)
  | .ok () =>
      match users.rows.find? fun user => user.username = username ∧ user.isActive with
      | none => (.error invalidCredentials, app.recordLoginFailure limits ⟨client, now, false⟩)
      | some user =>
          match verifyPassword password user.passwordHash with
          | .error _ => (.error internalError, limits)
          | .ok false => (.error invalidCredentials, app.recordLoginFailure limits ⟨client, now, false⟩)
          | .ok true =>
              let limits := app.clearLoginFailures limits ⟨client, now, true⟩
              match createAccessToken user settings now with
              | none => (.error internalError, limits)
              | some token => (.ok token, limits)

/-! The system. -/

inductive Action where
  /-- The application starts with settings, with or without Redis, and draws a salt and an identifier. -/
  | start (settings : Settings) (redis : Bool) (salt : List UInt8) (id : Uuid)
  | login (client : Option String) (username password : String) (now : Int)
  | request (credentials : Option String) (now : Int)

/-- A token that a login has answered with. -/
structure Issue where
  token : String
  settings : Settings
  user : User
  now : Int
  deriving DecidableEq

structure World where
  /-- The settings that the application runs with. -/
  running : Option (Settings × Bool)
  users : Users
  limits : Login.World
  /-- What the last start under each name configured as its password. -/
  configured : String → Option String
  issued : List Issue

/-- What a login adds to the tokens. -/
def issues (world : World) : Action → List Issue
  | .login client username password now =>
      match world.running with
      | none => []
      | some (settings, redis) =>
          match (login settings redis world.users world.limits client username password now).1,
              world.users.find? username with
          | .ok token, some user => [⟨token, settings, user, now⟩]
          | _, _ => []
  | _ => []

/-- A start that raises is rolled back, and no application runs. The failures that are counted in memory end with the
process. -/
def step (world : World) : Action → Option World
  | .start settings redis salt id =>
      match ensureAdminUser settings salt id world.users with
      | .error _ => some { world with running := none }
      | .ok users => some { world with
          running := some (settings, redis)
          users := users
          limits := { world.limits with failures := fun _ => none }
          configured := Function.update world.configured settings.adminUsername (some settings.adminPassword) }
  | .login client username password now =>
      world.running.map fun running => { world with
        limits := (login running.1 running.2 world.users world.limits client username password now).2
        issued := world.issued ++ issues world (.login client username password now) }
  | .request _ _ => world.running.map fun _ => world

/-- Before the first start, with the accounts that are in the database. -/
def World.initial (users : Users) (limits : Login.World) : World := ⟨none, users, limits, fun _ => none, []⟩

/-! A login. -/

section Logins
variable {settings : Settings} {redis : Bool} {users : Users} {limits : Login.World} {client : Option String}
  {username password : String} {now : Int}

/-- The limiter lets an attempt through. -/
def Unlimited (settings : Settings) (redis : Bool) (limits : Login.World) (client : Option String) (now : Int) : Prop :=
  (App.mk settings.loginRateLimitEnabled redis).checkLoginRateLimit limits ⟨client, now, false⟩ = .ok ()

omit [TimeData] [DigestData] [NumberData] [JwtData] [CharData] [UuidData] in
/-- Names are unique, so the account under a name is the one that is looked for. -/
theorem find?_active {name : String} {user : User} :
    (users.rows.find? fun user => user.username = name ∧ user.isActive) = some user ↔
      users.find? name = some user ∧ user.isActive = true := by
  constructor
  · intro found
    have member := List.mem_of_find?_eq_some found
    have holds : user.username = name ∧ user.isActive = true := by simpa using List.find?_some found
    exact ⟨Keyed.find?_eq_some_iff.2 ⟨member, holds.1⟩, holds.2⟩
  · intro known
    obtain ⟨found, active⟩ := known
    obtain ⟨member, own⟩ := Keyed.find?_eq_some_iff.1 found
    cases other : users.rows.find? fun user => user.username = name ∧ user.isActive with
    | none => exact absurd (List.find?_eq_none.1 other user member) (by simp [own, active])
    | some row =>
      have holds : row.username = name ∧ row.isActive = true := by simpa using List.find?_some other
      have same := Keyed.find?_eq_some_iff.2 ⟨List.mem_of_find?_eq_some other, holds.1⟩
      rw [← found, same]

omit [CharData] [UuidData] in
/-- A login answers with a token for an active account whose password was given. -/
theorem login_eq_ok_iff {token : String} :
    (login settings redis users limits client username password now).1 = .ok token ↔
      Unlimited settings redis limits client now ∧ ∃ user, users.find? username = some user ∧ user.isActive = true ∧
        verifyPassword password user.passwordHash = .ok true ∧ createAccessToken user settings now = some token := by
  unfold Unlimited
  cases limited : (App.mk settings.loginRateLimitEnabled redis).checkLoginRateLimit limits ⟨client, now, false⟩ with
  | error raised => simp [login, limited]
  | ok _ =>
    cases active : users.rows.find? fun user => user.username = username ∧ user.isActive with
    | none =>
      simp only [login, limited, active]
      constructor
      · intro refused
        cases refused
      · intro known
        obtain ⟨_, user, found, shown, _⟩ := known
        rw [find?_active.2 ⟨found, shown⟩] at active
        cases active
    | some user =>
      obtain ⟨found, shown⟩ := find?_active.1 active
      simp only [login, limited, active, found, Option.some.injEq, exists_eq_left', shown, true_and]
      cases verifyPassword password user.passwordHash with
      | error raised => simp
      | ok verified =>
        cases verified
        · simp
        · cases createAccessToken user settings now <;> simp

omit [CharData] [UuidData] in
/-- A login is refused for its credentials if there is no such active account, or the password is another one. -/
theorem login_refused_iff (unlimited : Unlimited settings redis limits client now) {user : User}
    (found : users.find? username = some user) (active : user.isActive = true) :
    (login settings redis users limits client username password now).1 = .error invalidCredentials ↔
      verifyPassword password user.passwordHash = .ok false := by
  have shown := find?_active.2 ⟨found, active⟩
  unfold Unlimited at unlimited
  simp only [login, unlimited, shown]
  have other : internalError ≠ invalidCredentials := by decide
  cases verifyPassword password user.passwordHash with
  | error raised => simp [other]
  | ok verified =>
    cases verified
    · simp
    · cases createAccessToken user settings now <;> simp [other]

end Logins

/-! What the starts make of the accounts. -/

variable {users : Users} {limits : Login.World} {world next : World} {action : Action}

/-- The accounts that a start has named accept what the last one has configured; the others are as they were. -/
structure Consistent (users : Users) (world : World) : Prop where
  configured : ∀ name password, world.configured name = some password →
    ∃ user, world.users.find? name = some user ∧ user.isActive = true ∧ Accepts user.passwordHash password
  others : ∀ name, world.configured name = none → world.users.find? name = users.find? name

omit [CharData] [UuidData] in
theorem Consistent.step (reads : NumberData.intOfText (toString pbkdf2Iterations) = some (pbkdf2Iterations : Int))
    (consistent : Consistent users world) (taken : step world action = some next) : Consistent users next := by
  cases action with
  | start settings redis salt id =>
    unfold Accounts.step at taken
    cases done : ensureAdminUser settings salt id world.users with
    | error raised =>
      simp only [done] at taken
      obtain rfl := Option.some.inj taken
      exact ⟨consistent.configured, consistent.others⟩
    | ok ensured =>
      simp only [done] at taken
      obtain rfl := Option.some.inj taken
      obtain ⟨user, spec⟩ := ensureAdminUser_spec reads done
      constructor
      · intro name password known
        by_cases same : name = settings.adminUsername
        · have own : settings.adminPassword = password := by simpa [same] using known
          refine ⟨user, ?_, spec.active, own ▸ spec.accepts⟩
          show ensured.find? name = _
          rw [spec.found, if_pos same]
        · have earlier : world.configured name = some password := by simpa [same] using known
          obtain ⟨before, found, kept⟩ := consistent.configured name password earlier
          refine ⟨before, ?_, kept⟩
          show ensured.find? name = _
          rw [spec.found, if_neg same, found]
      · intro name unnamed
        by_cases same : name = settings.adminUsername
        · simp [same] at unnamed
        · have earlier : world.configured name = none := by simpa [same] using unnamed
          show ensured.find? name = _
          rw [spec.found, if_neg same, consistent.others name earlier]
  | login client username password now =>
    obtain ⟨running, _, rfl⟩ := Option.map_eq_some_iff.1 taken
    exact ⟨consistent.configured, consistent.others⟩
  | request credentials now =>
    obtain ⟨running, _, rfl⟩ := Option.map_eq_some_iff.1 taken
    exact consistent

omit [CharData] [UuidData] in
theorem consistent_run (reads : NumberData.intOfText (toString pbkdf2Iterations) = some (pbkdf2Iterations : Int))
    {actions : List Action} (ran : Runs.run step (World.initial users limits) actions = some world) :
    Consistent users world := by
  apply Runs.run_invariant (Consistent users) (fun _ _ _ holds taken => holds.step reads taken) _ ran
  exact ⟨fun _ _ known => absurd known (by simp [World.initial]), fun _ _ => rfl⟩

omit [CharData] [UuidData] in
/-- A login that is not limited is refused exactly if its password has another digest, under one salt, than the one that
the last start under this name has configured. An account that no start has named keeps its row. -/
theorem refused_iff_not_configured
    (reads : NumberData.intOfText (toString pbkdf2Iterations) = some (pbkdf2Iterations : Int)) {actions : List Action}
    (ran : Runs.run step (World.initial users limits) actions = some world) (username : String) :
    (world.configured username = none → world.users.find? username = users.find? username) ∧
    ∀ configured, world.configured username = some configured →
      ∃ salt iterations, ∀ settings redis client password now, Unlimited settings redis world.limits client now →
        ((login settings redis world.users world.limits client username password now).1 = .error invalidCredentials ↔
          DigestData.digest (encodeUtf8 password) salt iterations ≠
            DigestData.digest (encodeUtf8 configured) salt iterations) := by
  have consistent := consistent_run reads ran
  constructor
  · exact consistent.others username
  · intro configured known
    obtain ⟨user, found, active, salt, iterations, accepted⟩ := consistent.configured username configured known
    refine ⟨salt, iterations, fun settings redis client password now unlimited => ?_⟩
    rw [login_refused_iff unlimited found active, accepted]
    simp

/-! Which account a token stands for. -/

/-- Accounts keep their identifiers, which are distinct. -/
structure Growing (earlier later : Users) : Prop where
  kept : named earlier <+: named later
  distinct : (earlier.rows.map User.id).Nodup → (later.rows.map User.id).Nodup

omit [TimeData] [DigestData] [NumberData] [JwtData] [CharData] [UuidData] in
theorem Growing.refl (users : Users) : Growing users users := ⟨List.prefix_rfl, id⟩

omit [TimeData] [DigestData] [NumberData] [JwtData] [CharData] [UuidData] in
theorem Growing.trans {first second third : Users} (earlier : Growing first second) (later : Growing second third) :
    Growing first third :=
  ⟨earlier.kept.trans later.kept, fun distinct => later.distinct (earlier.distinct distinct)⟩

omit [TimeData] [DigestData] [NumberData] [JwtData] [CharData] [UuidData] in
theorem ids_eq_named (users : Users) : users.rows.map User.id = (named users).map Prod.fst := by
  rw [named, List.map_map]
  rfl

omit [CharData] [UuidData] in
theorem growing_step (reads : NumberData.intOfText (toString pbkdf2Iterations) = some (pbkdf2Iterations : Int))
    (taken : step world action = some next) : Growing world.users next.users := by
  cases action with
  | start settings redis salt id =>
    unfold step at taken
    cases done : ensureAdminUser settings salt id world.users with
    | error raised =>
      simp only [done] at taken
      obtain rfl := Option.some.inj taken
      exact .refl _
    | ok ensured =>
      simp only [done] at taken
      obtain rfl := Option.some.inj taken
      obtain ⟨user, spec⟩ := ensureAdminUser_spec reads done
      show Growing world.users ensured
      obtain same | ⟨added, free⟩ := spec.named
      · refine ⟨same ▸ List.prefix_rfl, fun distinct => ?_⟩
        rw [ids_eq_named, same, ← ids_eq_named]
        exact distinct
      · refine ⟨by rw [added]; exact List.prefix_append _ _, fun distinct => ?_⟩
        rw [ids_eq_named, added, List.map_append, ← ids_eq_named]
        apply List.nodup_append.2
        refine ⟨distinct, List.nodup_singleton _, fun value known other last same => ?_⟩
        rw [List.map_singleton, List.mem_singleton] at last
        rw [same, last] at known
        exact free known
  | login client username password now =>
    obtain ⟨running, _, rfl⟩ := Option.map_eq_some_iff.1 taken
    exact .refl _
  | request credentials now =>
    obtain ⟨running, _, rfl⟩ := Option.map_eq_some_iff.1 taken
    exact .refl _

omit [CharData] [UuidData] in
theorem growing_run (reads : NumberData.intOfText (toString pbkdf2Iterations) = some (pbkdf2Iterations : Int))
    {actions : List Action} (ran : Runs.run step world actions = some next) : Growing world.users next.users := by
  apply Runs.run_invariant (fun reached => Growing world.users reached.users) _ (.refl _) ran
  intro state action reached holds taken
  exact holds.trans (growing_step reads taken)

omit [TimeData] [DigestData] [NumberData] [JwtData] [CharData] [UuidData] in
/-- The account under a name keeps its identifier. -/
theorem Growing.same_id {earlier later : Users} (growing : Growing earlier later) {before after : User}
    (known : before ∈ earlier.rows) (stored : after ∈ later.rows) (same : before.username = after.username) :
    before.id = after.id := by
  obtain ⟨row, member, equal⟩ := List.mem_map.1 (growing.kept.subset (mem_named known))
  obtain ⟨own, name⟩ := Prod.mk.inj equal
  have one := List.inj_on_of_nodup_map later.unique member stored (name.trans same)
  rw [← own, one]

omit [TimeData] [DigestData] [NumberData] [JwtData] [CharData] [UuidData] in
/-- The account with an identifier keeps its name. -/
theorem Growing.same_name {earlier later : Users} (growing : Growing earlier later)
    (distinct : (later.rows.map User.id).Nodup) {before after : User} (known : before ∈ earlier.rows)
    (stored : after ∈ later.rows) (same : before.id = after.id) : before.username = after.username := by
  obtain ⟨row, member, equal⟩ := List.mem_map.1 (growing.kept.subset (mem_named known))
  obtain ⟨own, name⟩ := Prod.mk.inj equal
  have one := List.inj_on_of_nodup_map distinct member stored (own.trans same)
  rw [← name, one]

/-! The tokens of the run. -/

omit [CharData] [UuidData] in
theorem mem_issues_iff {issue : Issue} :
    issue ∈ issues world action ↔ ∃ client password redis,
      action = .login client issue.user.username password issue.now ∧ world.running = some (issue.settings, redis) ∧
        issue.user ∈ world.users.rows ∧
        (login issue.settings redis world.users world.limits client issue.user.username password issue.now).1 =
          .ok issue.token := by
  cases action with
  | start settings redis salt id => simp [issues]
  | request credentials now => simp [issues]
  | login client username password now =>
    unfold issues
    constructor
    · intro member
      cases running : world.running with
      | none =>
        rw [running] at member
        cases member
      | some pair =>
        obtain ⟨settings, redis⟩ := pair
        rw [running] at member
        simp only at member
        split at member
        next token user answered found =>
          obtain rfl := List.mem_singleton.1 member
          obtain ⟨stored, rfl⟩ := Keyed.find?_eq_some_iff.1 found
          exact ⟨client, password, redis, rfl, rfl, stored, answered⟩
        next => cases member
    · intro known
      obtain ⟨other, secret, redis, same, running, stored, answered⟩ := known
      obtain ⟨rfl, rfl, rfl, rfl⟩ := Action.login.inj same
      have found := Keyed.find?_eq_some_iff.2 ⟨stored, rfl⟩
      rw [running]
      simp only [answered, found]
      exact List.mem_singleton_self _

omit [CharData] [UuidData] in
theorem issued_step (taken : step world action = some next) : next.issued = world.issued ++ issues world action := by
  cases action with
  | start settings redis salt id =>
    unfold step at taken
    cases done : ensureAdminUser settings salt id world.users with
    | error raised =>
      simp only [done] at taken
      obtain rfl := Option.some.inj taken
      exact (List.append_nil _).symm
    | ok ensured =>
      simp only [done] at taken
      obtain rfl := Option.some.inj taken
      exact (List.append_nil _).symm
  | login client username password now =>
    obtain ⟨running, _, rfl⟩ := Option.map_eq_some_iff.1 taken
    rfl
  | request credentials now =>
    obtain ⟨running, _, rfl⟩ := Option.map_eq_some_iff.1 taken
    exact (List.append_nil _).symm

omit [JwtData] [DigestData] [CharData] [UuidData] in
theorem proper_payload (user : User) (settings : Settings) (now : Int) :
    Loads.Proper (.obj (payloadOf user settings now)) := by
  refine ⟨by simp [payloadOf], ?_⟩
  rw [Loads.properFields_iff]
  intro field member
  simp only [payloadOf, List.mem_cons, List.not_mem_nil, or_false] at member
  obtain rfl | rfl | rfl | rfl | rfl := member <;> trivial

omit [DigestData] [NumberData] [JwtData] in
theorem subject_of_payload (user : User) (settings : Settings) (now : Int) :
    Uuid.ofText (((payloadOf user settings now).get "sub").or (.str "")).toStr = some user.id := by
  have subject : (payloadOf user settings now).get "sub" = .str user.id.str := rfl
  rw [subject, Json.or_str]
  exact Uuid.ofText_str user.id

omit [CharData] [UuidData] in
/-- What the token of a login is decoded to. -/
theorem decode_answered (documented : Documented) {settings other : Settings} {redis : Bool} {state : World}
    {client : Option String} {username password token : String} {time : Int}
    (answered : (login settings redis state.users state.limits client username password time).1 = .ok token)
    (secret : settings.jwtSecret = other.jwtSecret) (algorithm : settings.jwtAlgorithm = other.jwtAlgorithm) (now : Int) :
    ∃ user ∈ state.users.rows, user.username = username ∧ decodeAccessToken token other now =
      if timestamp time * TimeData.second ≤ now ∧ now < timestamp (expiry settings time) * TimeData.second then
        some (payloadOf user settings time) else none := by
  obtain ⟨_, user, found, _, _, encoded⟩ := login_eq_ok_iff.1 answered
  obtain ⟨stored, own⟩ := Keyed.find?_eq_some_iff.1 found
  refine ⟨user, stored, own, ?_⟩
  rw [decodeAccessToken, ← secret, ← algorithm]
  exact documented _ _ _ _ user.id.str _ _ now encoded (proper_payload user settings time) rfl rfl rfl

/-- A request is served as a user exactly if its token is the answer to an earlier login of this user, under the secret
that is still in force, and the time that this login has set has not passed. Nobody makes a token without the secret. -/
theorem served_iff_logged_in
    (reads : NumberData.intOfText (toString pbkdf2Iterations) = some (pbkdf2Iterations : Int)) (documented : Documented)
    (distinct : (users.rows.map User.id).Nodup) {actions : List Action}
    (ran : Runs.run step (World.initial users limits) actions = some world) (settings : Settings) (token : String)
    (now : Int)
    (unforged : ∀ payload, decodeAccessToken token settings now = some payload → ∃ issue ∈ world.issued,
      issue.token = token ∧ issue.settings.jwtSecret = settings.jwtSecret ∧
        issue.settings.jwtAlgorithm = settings.jwtAlgorithm) (user : User) :
    getCurrentUser (some token) world.users settings now = .ok user ↔
      user ∈ world.users.rows ∧ user.isActive = true ∧ ∃ state issuer redis client password time,
        Runs.Passes step (World.initial users limits) actions state (.login client user.username password time) ∧
        state.running = some (issuer, redis) ∧
        (login issuer redis state.users state.limits client user.username password time).1 = .ok token ∧
        issuer.jwtSecret = settings.jwtSecret ∧ issuer.jwtAlgorithm = settings.jwtAlgorithm ∧
        timestamp time * TimeData.second ≤ now ∧ now < timestamp (expiry issuer time) * TimeData.second := by
  have ids := (growing_run reads ran).distinct distinct
  -- The accounts of a state that the run passes live on.
  have grown : ∀ state action, Runs.Passes step (World.initial users limits) actions state action →
      Growing state.users world.users := by
    intro state action passes
    obtain ⟨front, back, cut, reached⟩ := passes
    rw [cut, Runs.run_append, reached] at ran
    exact growing_run reads ran
  constructor
  · intro served
    unfold getCurrentUser at served
    cases decoded : decodeAccessToken token settings now with
    | none =>
      simp only [decoded] at served
      cases served
    | some payload =>
      obtain ⟨issue, recorded, rfl, secret, algorithm⟩ := unforged payload decoded
      obtain nothing | ⟨state, action, passes, added⟩ :=
        (Runs.mem_recorded_iff (fun _ _ _ taken => issued_step taken) ran issue).1 recorded
      · cases nothing
      obtain ⟨client, password, redis, rfl, running, stored, answered⟩ := mem_issues_iff.1 added
      obtain ⟨row, member, own, known⟩ := decode_answered documented answered secret algorithm now
      obtain rfl := List.inj_on_of_nodup_map state.users.unique member stored own
      rw [decoded] at known
      split_ifs at known with window
      obtain rfl := Option.some.inj known
      simp only [decoded, subject_of_payload] at served
      split at served
      next => cases served
      next found =>
        obtain rfl := Except.ok.inj served
        have holds := List.find?_some found
        simp only [decide_eq_true_eq] at holds
        have there := List.mem_of_find?_eq_some found
        have name := (grown state _ passes).same_name ids stored there holds.1.symm
        rw [name] at passes answered
        exact ⟨there, holds.2, state, issue.settings, redis, client, password, issue.now, passes, running, answered,
          secret, algorithm, window⟩
  · intro known
    obtain ⟨there, active, state, issuer, redis, client, password, time, passes, running, answered, secret, algorithm,
      window⟩ := known
    obtain ⟨row, member, own, decoded⟩ := decode_answered documented answered secret algorithm now
    rw [if_pos window] at decoded
    have id := (grown state _ passes).same_id member there own
    have found : world.users.rows.find? (fun other => other.id = row.id ∧ other.isActive) = some user := by
      cases found : world.users.rows.find? fun other => other.id = row.id ∧ other.isActive with
      | none => exact absurd (List.find?_eq_none.1 found user there) (by simp [id, active])
      | some other =>
        have holds := List.find?_some found
        simp only [decide_eq_true_eq] at holds
        rw [List.inj_on_of_nodup_map ids (List.mem_of_find?_eq_some found) there (holds.1.trans id)]
    simp only [getCurrentUser, decoded, subject_of_payload, found]

end Model

/-! One account with the default settings. -/

section Demo

/-- The payload of a token that carries its secret. -/
def opened [TimeData] (secret algorithm : String) (now : Int) : Option Json → Option Dict
  | some (.arr [.str key, .str name, .obj payload]) =>
      match Dict.get payload "iat", Dict.get payload "exp" with
      | .int issued, .int expires =>
          if key = secret ∧ name = algorithm ∧ issued * TimeData.second ≤ now ∧ now < expires * TimeData.second then
            some payload
          else none
      | _, _ => none
  | _ => none

@[reducible] def JwtData.plain [TimeData] [NumberData] : JwtData where
  encode payload secret algorithm := some (Json.arr [.str secret, .str algorithm, .obj payload]).dumps
  decode token secret algorithm now := opened secret algorithm now (Json.loads token)

theorem documented_plain [TimeData] [NumberData] : @Documented _ _ JwtData.plain := by
  intro payload secret algorithm token subject issued expires now encoded proper _ from_ until_
  obtain rfl := Option.some.inj encoded
  have whole : Loads.Proper (.arr [.str secret, .str algorithm, .obj payload]) := ⟨trivial, trivial, proper, trivial⟩
  have blank : ∀ c ∈ ([] : List Char), Loads.isBlank c = true := fun c member => absurd member List.not_mem_nil
  have read := Loads.loads_dumps whole blank
  rw [List.nil_append, String.ofList_toList] at read
  show opened secret algorithm now (Json.loads _) = _
  rw [read, opened]
  simp only [from_, until_, true_and]

attribute [local instance] TimeData.seconds NumberData.decimal CharData.ascii UuidData.plain JwtData.plain

/-- A digest that keeps the password. -/
@[reducible] def DigestData.plain : DigestData where
  digest password _ _ := password

attribute [local instance] DigestData.plain

def administrator : User := ⟨⟨0⟩, "admin", storedText [] "soulclaw-admin", "admin", true⟩

def administrators : Users := ⟨[administrator], List.nodup_singleton _⟩

/-- After the first start. -/
def seated : World :=
  ⟨some ({}, false), administrators, Login.World.initial, Function.update (fun _ => none) "admin" (some "soulclaw-admin"), []⟩

theorem seated_of_start :
    step (World.initial Keyed.empty Login.World.initial) (.start {} false [] ⟨0⟩) = some seated := by
  have done : ensureAdminUser {} [] ⟨0⟩ Keyed.empty = .ok administrators := by
    unfold ensureAdminUser
    simp only [hashPassword_eq]
    rfl
  unfold step
  simp only [World.initial, done]
  rfl

theorem seated_run : Runs.run step (World.initial Keyed.empty Login.World.initial) [.start {} false [] ⟨0⟩] = some seated := by
  rw [Runs.run_cons, seated_of_start]
  rfl

theorem administrator_refused_otherwise :
    seated.configured "admin" = some "soulclaw-admin" ∧
      ∃ salt iterations, ∀ settings redis client password now, Unlimited settings redis seated.limits client now →
        ((login settings redis seated.users seated.limits client "admin" password now).1 = .error invalidCredentials ↔
          DigestData.digest (encodeUtf8 password) salt iterations ≠
            DigestData.digest (encodeUtf8 "soulclaw-admin") salt iterations) :=
  ⟨rfl, (refused_iff_not_configured reads_iterations seated_run "admin").2 "soulclaw-admin" rfl⟩

/-- The token of the first login. -/
def firstToken : String :=
  (Json.arr [.str "change-me-for-production", .str "HS256", .obj (payloadOf administrator {} 0)]).dumps

def firstLogin : Action := .login none "admin" "soulclaw-admin" 0

theorem first_answered :
    (login {} false seated.users seated.limits none "admin" "soulclaw-admin" 0).1 = .ok firstToken := by
  apply login_eq_ok_iff.2
  refine ⟨rfl, administrator, rfl, rfl, ?_, rfl⟩
  show verifyPassword _ (storedText _ _) = _
  rw [verifyPassword_storedText reads_iterations, decide_eq_true rfl]

theorem administrator_served :
    ∃ world, Runs.run step (World.initial Keyed.empty Login.World.initial) [.start {} false [] ⟨0⟩, firstLogin] = some world ∧
      getCurrentUser (some firstToken) world.users {} 1 = .ok administrator := by
  have ran : Runs.run step (World.initial Keyed.empty Login.World.initial) [.start {} false [] ⟨0⟩, firstLogin] =
      some { seated with
        limits := (login {} false seated.users seated.limits none "admin" "soulclaw-admin" 0).2
        issued := seated.issued ++ issues seated firstLogin } := by
    rw [Runs.run_cons, seated_of_start]
    rfl
  refine ⟨_, ran, ?_⟩
  have issued : (⟨firstToken, {}, administrator, 0⟩ : Issue) ∈ issues seated firstLogin :=
    mem_issues_iff.2 ⟨none, "soulclaw-admin", false, rfl, rfl, List.mem_singleton_self _, first_answered⟩
  have distinct : ((Keyed.empty : Users).rows.map User.id).Nodup := List.nodup_nil
  apply (served_iff_logged_in reads_iterations documented_plain distinct ran {} firstToken 1 ?_ administrator).2
  · refine ⟨List.mem_singleton_self _, rfl, seated, {}, false, none, "soulclaw-admin", 0, ?_, rfl, first_answered, rfl,
      rfl, by decide, by decide⟩
    exact (Runs.Passes.here seated firstLogin []).later seated_of_start
  · intro payload _
    exact ⟨_, List.mem_append_right _ issued, rfl, rfl, rfl⟩

end Demo

end SoulClaw.Api.Accounts
