import SoulClaw.Infra.RateLimit
import Mathlib.Data.List.Pairwise

/-! The limiter of `POST /api/auth/login`, in Redis and in memory. Redis counts the failures in a window that the
first of them opens and forgets them with its end; the entry in memory counts all of them, and each one sets its time
anew. -/

namespace SoulClaw.Api.Login
open Foundation Infra.RateLimit

/-- The clock counts in ticks. -/
class TimeData where
  second : Int
  second_pos : 0 < second

@[reducible] def TimeData.seconds : TimeData := ⟨1, by decide⟩

structure Attempt where
  /-- The address of the client, where the request has one. -/
  client : Option String := none
  now : Int
  /-- The name is that of an active user, and the password is theirs. -/
  correct : Bool := false
  deriving DecidableEq, Repr

/-- The settings, and whether the application has a Redis client. -/
structure App where
  loginRateLimitEnabled : Bool := true
  redis : Bool := false

/-- `_LOGIN_FAILURES` and Redis. -/
structure World where
  failures : String → Option (Int × Int)
  keys : Keyspace

def World.initial : World := ⟨fun _ => none, fun _ => none⟩

/-- `_client_key`. -/
def clientKey (client : Option String) : String := "login:" ++ client.getD "unknown"

def tooManyAttempts : HttpError := ⟨429, "too many login attempts"⟩

def invalidCredentials : HttpError := ⟨401, "invalid credentials"⟩

section Login
variable [TimeData]

/-- The 900 seconds of both backends. -/
def lockout : Int := 900 * TimeData.second

/-- `_check_login_rate_limit`. -/
def App.checkLoginRateLimit (app : App) (world : World) (attempt : Attempt) : Except HttpError Unit :=
  if !app.loginRateLimitEnabled then .ok ()
  else
    let key := clientKey attempt.client
    if app.redis then
      let count := ((live attempt.now world.keys key).map Counter.count).getD 0
      if count ≥ 8 then .error tooManyAttempts else .ok ()
    else
      let (count, expires) := (world.failures key).getD (0, 0)
      if count ≥ 8 ∧ expires > attempt.now then .error tooManyAttempts else .ok ()

/-- The first failure under a key sets its expiry. -/
def countFailure (key : String) (now : Int) (keys : Keyspace) : Keyspace :=
  let (count, keys) := incr key (live now keys)
  if count = 1 then (expire key now lockout keys).2 else keys

/-- `_record_login_failure`. -/
def App.recordLoginFailure (app : App) (world : World) (attempt : Attempt) : World :=
  if !app.loginRateLimitEnabled then world
  else
    let key := clientKey attempt.client
    if app.redis then { world with keys := countFailure key attempt.now world.keys }
    else
      let (count, _) := (world.failures key).getD (0, 0)
      { world with failures := Function.update world.failures key (some (count + 1, attempt.now + lockout)) }

/-- `_clear_login_failures`. -/
def App.clearLoginFailures (app : App) (world : World) (attempt : Attempt) : World :=
  if !app.loginRateLimitEnabled then world
  else
    let key := clientKey attempt.client
    if app.redis then { world with keys := Function.update (live attempt.now world.keys) key none }
    else { world with failures := Function.update world.failures key none }

/-- `login`; the token that it answers with is left out. -/
def App.login (app : App) (world : World) (attempt : Attempt) : Except HttpError Unit × World :=
  match app.checkLoginRateLimit world attempt with
  | .error raised => (.error raised, world)
  | .ok () =>
      if attempt.correct then (.ok (), app.clearLoginFailures world attempt)
      else (.error invalidCredentials, app.recordLoginFailure world attempt)

def rejected : Except HttpError Unit → Bool
  | .error raised => raised.status = 429
  | .ok () => false

/-- Which attempts of a history are rejected by the limiter. -/
def App.rejections (app : App) : World → List Attempt → List Bool
  | _, [] => []
  | world, attempt :: rest =>
      rejected (app.login world attempt).1 :: app.rejections (app.login world attempt).2 rest

/-! The failures in a row. -/

/-- Eight or more failures in a row shut a client out as long as one of them is recent. -/
def ShutOut (times : List Int) (now : Int) : Prop := 8 ≤ times.length ∧ ∃ time ∈ times, now < time + lockout

/-- Eight or more failures in a row are all recent or none is. -/
def AllOrNone (times : List Int) (now : Int) : Prop := ShutOut times now → ∀ time ∈ times, now < time + lockout

instance (times : List Int) (now : Int) : Decidable (ShutOut times now) := by
  unfold ShutOut
  infer_instance

instance (times : List Int) (now : Int) : Decidable (AllOrNone times now) := by
  unfold AllOrNone
  infer_instance

/-- The times of the failures in a row under a key, the latest one first. An attempt of a client that is shut out is
neither a failure nor a success. -/
def nextFailures (key : String) (times : List Int) (attempt : Attempt) : List Int :=
  if clientKey attempt.client ≠ key ∨ ShutOut times attempt.now then times
  else if attempt.correct then []
  else attempt.now :: times

def failuresInARow (key : String) (attempts : List Attempt) : List Int := attempts.foldl (nextFailures key) []

/-! What both backends know of the failures in a row. -/

variable {times : List Int} {now clock : Int} {key : String} {keys : Keyspace} {failures : String → Option (Int × Int)}

theorem lockout_pos : 0 < lockout := by
  have positive := TimeData.second_pos
  rw [lockout]
  omega

omit [TimeData] in
/-- A key that is gone at a time is gone at the later ones. -/
theorem live_live (later : clock ≤ now) (key : String) : live now (live clock keys) key = live now keys key := by
  rw [live, live, live, Option.filter_filter]
  congr 1
  funext counter
  cases counter.expires with
  | none => rfl
  | some expires =>
    have implied : now < expires → clock < expires := fun ahead => by omega
    simpa using implied

/-- The entry of a key in memory. -/
def entryOf (times : List Int) : Option (Int × Int) :=
  times.head?.map fun last => ((times.length : Int), last + lockout)

/-- The counter of a key in Redis: its window begins with one of the failures, and holds all of them unless another
one is from before the window of the first. -/
inductive Windowed (times : List Int) (clock : Int) (seen : Int → Option Counter) : Prop where
  | absent (empty : times = []) (none : ∀ now, clock ≤ now → seen now = none)
  | counting (start : Int) (count : Nat) (member : start ∈ times)
      (seen : ∀ now, clock ≤ now →
        seen now = if now < start + lockout then some ⟨count, some (start + lockout)⟩ else none)
      (counts : count = times.length ∧ (∀ time ∈ times, start ≤ time) ∨
        0 < count ∧ count < times.length ∧ count < 8 ∧ ∃ time ∈ times, time + lockout ≤ start)

/-- What a key has in both backends. -/
structure Tracked (failure : Option (Int × Int)) (seen : Int → Option Counter) (times : List Int) (clock : Int) :
    Prop where
  sorted : times.Pairwise (· ≥ ·)
  past : ∀ time ∈ times, time ≤ clock
  memory : failure = entryOf times
  redis : Windowed times clock seen

def Tracks (failures : String → Option (Int × Int)) (keys : Keyspace) (rows : String → List Int) (clock : Int) : Prop :=
  ∀ key, Tracked (failures key) (fun now => live now keys key) (rows key) clock

theorem Windowed.later {seen : Int → Option Counter} (windowed : Windowed times clock seen) (later : clock ≤ now) :
    Windowed times now seen := by
  cases windowed with
  | absent empty none => exact .absent empty fun time after => none time (later.trans after)
  | counting start count member seen counts =>
    exact .counting start count member (fun time after => seen time (later.trans after)) counts

theorem Windowed.congr {seen other : Int → Option Counter} (windowed : Windowed times clock seen)
    (same : ∀ now, clock ≤ now → seen now = other now) : Windowed times clock other := by
  cases windowed with
  | absent empty none => exact .absent empty fun now after => (same now after).symm.trans (none now after)
  | counting start count member seen counts =>
    exact .counting start count member (fun now after => (same now after).symm.trans (seen now after)) counts

/-! One attempt. -/

theorem entry_shuts_out (sorted : times.Pairwise (· ≥ ·)) :
    (((entryOf times).getD (0, 0)).1 ≥ 8 ∧ ((entryOf times).getD (0, 0)).2 > now) ↔ ShutOut times now := by
  cases times with
  | nil => simp [entryOf, ShutOut]
  | cons last rest =>
    have latest : ∀ time ∈ last :: rest, time ≤ last := by
      intro time member
      rcases List.mem_cons.1 member with rfl | member
      · exact le_rfl
      · exact List.rel_of_pairwise_cons sorted member
    rw [entryOf, ShutOut, List.head?_cons, Option.map_some, Option.getD_some]
    constructor
    · intro ⟨many, recent⟩
      exact ⟨by omega, last, List.mem_cons_self, recent⟩
    · intro ⟨many, time, member, recent⟩
      have before := latest time member
      exact ⟨by omega, by omega⟩

/-- Redis shuts a client out while all its failures are recent. -/
theorem Windowed.shuts_out {seen : Int → Option Counter} (windowed : Windowed times clock seen)
    (past : ∀ time ∈ times, time ≤ clock) (later : clock ≤ now) :
    ((seen now).map Counter.count).getD 0 ≥ 8 ↔ 8 ≤ times.length ∧ ∀ time ∈ times, now < time + lockout := by
  cases windowed with
  | absent empty none =>
    subst empty
    rw [none now later]
    simp
  | counting start count member seen counts =>
    rw [seen now later]
    by_cases open_ : now < start + lockout
    · rw [if_pos open_]
      change (count : Int) ≥ 8 ↔ _
      rcases counts with ⟨all, first⟩ | ⟨_, _, few, old, listed, before⟩
      · constructor
        · intro many
          refine ⟨by omega, fun time listed => ?_⟩
          have := first time listed
          omega
        · intro ⟨many, _⟩
          omega
      · constructor
        · intro many
          omega
        · intro ⟨_, recent⟩
          have recently := recent old listed
          have begun := past start member
          omega
    · rw [if_neg open_]
      constructor
      · intro many
        simp at many
      · intro ⟨_, recent⟩
        exact absurd (recent start member) open_

theorem checkLoginRateLimit_memory {world : World} {attempt : Attempt} (sorted : times.Pairwise (· ≥ ·))
    (entry : world.failures (clientKey attempt.client) = entryOf times) :
    (⟨true, false⟩ : App).checkLoginRateLimit world attempt =
      if ShutOut times attempt.now then .error tooManyAttempts else .ok () := by
  rw [App.checkLoginRateLimit]
  dsimp only
  rw [Bool.not_true, if_neg Bool.false_ne_true, if_neg Bool.false_ne_true, entry]
  exact if_congr (entry_shuts_out sorted) rfl rfl

theorem checkLoginRateLimit_redis {world : World} {attempt : Attempt}
    (windowed : Windowed times clock fun now => live now world.keys (clientKey attempt.client))
    (past : ∀ time ∈ times, time ≤ clock) (later : clock ≤ attempt.now) :
    (⟨true, true⟩ : App).checkLoginRateLimit world attempt =
      if 8 ≤ times.length ∧ ∀ time ∈ times, attempt.now < time + lockout then .error tooManyAttempts else .ok () := by
  rw [App.checkLoginRateLimit]
  dsimp only
  rw [Bool.not_true, if_neg Bool.false_ne_true, if_pos rfl]
  exact if_congr (windowed.shuts_out past later) rfl rfl

/-- What an attempt that is not rejected leaves. -/
def handled (times : List Int) (attempt : Attempt) : List Int := if attempt.correct then [] else attempt.now :: times

theorem nextFailures_of_ne {attempt : Attempt} (other : clientKey attempt.client ≠ key) :
    nextFailures key times attempt = times := if_pos (Or.inl other)

theorem nextFailures_shut {attempt : Attempt} (shut : ShutOut times attempt.now) :
    nextFailures key times attempt = times := if_pos (Or.inr shut)

theorem nextFailures_handled {attempt : Attempt} (free : ¬ShutOut times attempt.now) :
    nextFailures (clientKey attempt.client) times attempt = handled times attempt :=
  if_neg (not_or.2 ⟨not_not.2 rfl, free⟩)

/-- The failures of a handled attempt in memory. -/
theorem recorded_memory {world : World} {attempt : Attempt}
    (entry : world.failures (clientKey attempt.client) = entryOf times) (free : ¬ShutOut times attempt.now)
    (sorted : times.Pairwise (· ≥ ·)) :
    ((⟨true, false⟩ : App).login world attempt).2.failures =
      Function.update world.failures (clientKey attempt.client) (entryOf (handled times attempt)) := by
  rw [App.login, checkLoginRateLimit_memory sorted entry, if_neg free]
  dsimp only
  rw [handled]
  cases attempt.correct with
  | true => rfl
  | false =>
    have count : ((entryOf times).getD (0, 0)).1 = times.length := by
      cases times <;> rfl
    rw [if_neg Bool.false_ne_true, if_neg Bool.false_ne_true, App.recordLoginFailure]
    dsimp only
    rw [Bool.not_true, if_neg Bool.false_ne_true, if_neg Bool.false_ne_true, entry]
    dsimp only
    rw [count]
    rfl

/-- What is seen of a counter that has been set. -/
theorem live_set (keys : Keyspace) (count start : Int) :
    live now (Function.update (live clock keys) key (some ⟨count, some (start + lockout)⟩)) key =
      if now < start + lockout then some ⟨count, some (start + lockout)⟩ else none := by
  rw [live, Function.update_self, Option.filter_some]
  exact if_congr decide_eq_true_iff rfl rfl

omit [TimeData] in
theorem live_of_ne (later : clock ≤ now) {key other : String} (apart : other ≠ key) (value : Option Counter) :
    live now (Function.update (live clock keys) key value) other = live now keys other := by
  refine Eq.trans ?_ (live_live later other)
  change (Function.update (live clock keys) key value other).filter _ = (live clock keys other).filter _
  rw [Function.update_of_ne apart]

/-- A failure in a window that is open. -/
theorem countFailure_open {counter : Counter} (seen : live clock keys key = some counter) (counted : 0 < counter.count) :
    countFailure key clock keys =
      Function.update (live clock keys) key (some { counter with count := counter.count + 1 }) := by
  have more : counter.count + 1 ≠ 1 := by omega
  rw [countFailure, incr, seen]
  exact if_neg more

/-- A failure that opens a window. -/
theorem countFailure_opens (gone : live clock keys key = none) :
    countFailure key clock keys = Function.update (live clock keys) key (some ⟨1, some (clock + lockout)⟩) := by
  rw [countFailure, incr, gone]
  dsimp only
  rw [if_pos rfl, expire, Function.update_self]
  dsimp only
  rw [if_neg (not_le.2 lockout_pos), Function.update_idem]

theorem live_countFailure (later : clock ≤ now) (keys : Keyspace) {key other : String} (apart : other ≠ key) :
    live now (countFailure key clock keys) other = live now keys other := by
  have set : ∃ counter, countFailure key clock keys = Function.update (live clock keys) key counter := by
    rw [countFailure]
    dsimp only
    split_ifs with first
    · rw [incr, expire]
      dsimp only
      rw [Function.update_self]
      dsimp only
      rw [if_neg (not_le.2 lockout_pos), Function.update_idem]
      exact ⟨_, rfl⟩
    · exact ⟨_, rfl⟩
  obtain ⟨counter, set⟩ := set
  rw [set]
  exact live_of_ne later apart counter

/-- The counter of a failure that has been handled. -/
theorem Windowed.record (windowed : Windowed times clock fun now => live now keys key)
    (past : ∀ time ∈ times, time ≤ clock) (later : clock ≤ now) (free : ¬ShutOut times now) :
    Windowed (now :: times) now fun time => live time (countFailure key now keys) key := by
  cases windowed with
  | absent empty none =>
    rw [countFailure_opens (none now later), empty]
    refine .counting now 1 List.mem_cons_self (fun time _ => live_set keys 1 now) (Or.inl ⟨rfl, fun time listed => ?_⟩)
    rw [List.mem_singleton.1 listed]
  | counting start count member seen counts =>
    have begun : start ≤ now := (past start member).trans later
    by_cases open_ : now < start + lockout
    · have few : times.length < 8 := by
        by_contra many
        exact free ⟨not_lt.1 many, start, member, open_⟩
      have counted : 0 < count := by
        rcases counts with ⟨all, _⟩ | ⟨counted, _⟩
        · rw [all]
          exact List.length_pos_of_mem member
        · exact counted
      have counter := (seen now later).trans (if_pos open_)
      rw [countFailure_open counter (Int.natCast_pos.2 counted)]
      refine .counting start (count + 1) (List.mem_cons_of_mem _ member)
        (fun time _ => live_set keys (count + 1) start) ?_
      rcases counts with ⟨all, first⟩ | ⟨_, less, _, old, listed, before⟩
      · refine Or.inl ⟨by rw [all, List.length_cons], fun time listed => ?_⟩
        rcases List.mem_cons.1 listed with rfl | listed
        · exact begun
        · exact first time listed
      · refine Or.inr ⟨by omega, ?_, by omega, old, List.mem_cons_of_mem _ listed, before⟩
        rw [List.length_cons]
        omega
    · rw [countFailure_opens ((seen now later).trans (if_neg open_))]
      have some : 0 < times.length := List.length_pos_of_mem member
      refine .counting now 1 List.mem_cons_self (fun time _ => live_set keys 1 now) (Or.inr ⟨by omega, ?_, by omega,
        start, List.mem_cons_of_mem _ member, not_lt.1 open_⟩)
      rw [List.length_cons]
      omega

/-- The window of a handled attempt, and those of the other keys. -/
theorem recorded_redis {world : World} {attempt : Attempt}
    (windowed : Windowed times clock fun now => live now world.keys (clientKey attempt.client))
    (past : ∀ time ∈ times, time ≤ clock) (later : clock ≤ attempt.now) (free : ¬ShutOut times attempt.now) :
    let after := ((⟨true, true⟩ : App).login world attempt).2.keys
    (Windowed (handled times attempt) attempt.now fun now => live now after (clientKey attempt.client)) ∧
      ∀ key, key ≠ clientKey attempt.client → ∀ now, attempt.now ≤ now → live now after key = live now world.keys key := by
  have admitted : ¬(8 ≤ times.length ∧ ∀ time ∈ times, attempt.now < time + lockout) := by
    intro ⟨many, recent⟩
    obtain ⟨time, listed⟩ := List.exists_mem_of_length_pos (show 0 < times.length by omega)
    exact free ⟨many, time, listed, recent time listed⟩
  rw [App.login, checkLoginRateLimit_redis windowed past later, if_neg admitted, handled]
  cases attempt.correct with
  | true =>
    refine ⟨.absent rfl fun now _ => ?_, fun key apart now after => live_of_ne after apart _⟩
    change (Function.update (live attempt.now world.keys) (clientKey attempt.client) none _).filter _ = none
    rw [Function.update_self]
    rfl
  | false =>
    exact ⟨windowed.record past later free, fun key apart now after => live_countFailure after world.keys apart⟩

/-! Histories. -/

omit [TimeData] in
theorem handled_sorted {attempt : Attempt} (sorted : times.Pairwise (· ≥ ·)) (past : ∀ time ∈ times, time ≤ attempt.now) :
    (handled times attempt).Pairwise (· ≥ ·) ∧ ∀ time ∈ handled times attempt, time ≤ attempt.now := by
  rw [handled]
  split_ifs with correct
  · exact ⟨List.Pairwise.nil, fun time listed => by cases listed⟩
  · refine ⟨List.pairwise_cons.2 ⟨past, sorted⟩, fun time listed => ?_⟩
    rcases List.mem_cons.1 listed with rfl | listed
    · exact le_rfl
    · exact past time listed

variable {memory redis : World} {rows : String → List Int} {attempt : Attempt}

/-- The backends agree on an attempt iff the failures before it are all recent or none is. -/
theorem rejected_eq_iff (tracks : Tracks memory.failures redis.keys rows clock) (later : clock ≤ attempt.now) :
    rejected ((⟨true, false⟩ : App).login memory attempt).1 = rejected ((⟨true, true⟩ : App).login redis attempt).1 ↔
      AllOrNone (rows (clientKey attempt.client)) attempt.now := by
  obtain ⟨sorted, past, entry, windowed⟩ := tracks (clientKey attempt.client)
  have answers (shut : Prop) [Decidable shut] (app : App) (world : World)
      (checked : app.checkLoginRateLimit world attempt = if shut then .error tooManyAttempts else .ok ()) :
      rejected (app.login world attempt).1 = decide shut := by
    rw [App.login, checked]
    by_cases holds : shut
    · rw [if_pos holds, decide_eq_true holds]
      rfl
    · rw [if_neg holds, decide_eq_false holds]
      cases attempt.correct <;> rfl
  rw [answers _ _ memory (checkLoginRateLimit_memory sorted entry),
    answers _ _ redis (checkLoginRateLimit_redis windowed past later), decide_eq_decide, AllOrNone]
  generalize rows (clientKey attempt.client) = times
  constructor
  · intro same shut
    exact (same.1 shut).2
  · intro settled
    constructor
    · intro shut
      exact ⟨shut.1, settled shut⟩
    · intro ⟨many, recent⟩
      obtain ⟨time, listed⟩ := List.exists_mem_of_length_pos (show 0 < times.length by omega)
      exact ⟨many, time, listed, recent time listed⟩

theorem tracks_login (tracks : Tracks memory.failures redis.keys rows clock) (later : clock ≤ attempt.now)
    (settled : AllOrNone (rows (clientKey attempt.client)) attempt.now) :
    Tracks ((⟨true, false⟩ : App).login memory attempt).2.failures ((⟨true, true⟩ : App).login redis attempt).2.keys
      (fun key => nextFailures key (rows key) attempt) attempt.now := by
  obtain ⟨sorted, past, entry, windowed⟩ := tracks (clientKey attempt.client)
  have before : ∀ key, ∀ time ∈ rows key, time ≤ attempt.now := fun key time listed =>
    ((tracks key).past time listed).trans later
  by_cases shut : ShutOut (rows (clientKey attempt.client)) attempt.now
  · have kept : ∀ key, nextFailures key (rows key) attempt = rows key := by
      intro key
      by_cases own : clientKey attempt.client = key
      · exact nextFailures_shut (own ▸ shut)
      · exact nextFailures_of_ne own
    have all : 8 ≤ (rows (clientKey attempt.client)).length ∧
        ∀ time ∈ rows (clientKey attempt.client), attempt.now < time + lockout := ⟨shut.1, settled shut⟩
    rw [App.login, checkLoginRateLimit_memory sorted entry, if_pos shut, App.login,
      checkLoginRateLimit_redis windowed past later, if_pos all]
    intro key
    dsimp only
    rw [kept]
    exact ⟨(tracks key).sorted, before key, (tracks key).memory, (tracks key).redis.later later⟩
  · rw [recorded_memory entry shut sorted]
    obtain ⟨own, others⟩ := recorded_redis windowed past later shut
    intro key
    dsimp only
    by_cases same : key = clientKey attempt.client
    · subst same
      obtain ⟨sorted', past'⟩ := handled_sorted sorted (before _)
      rw [nextFailures_handled shut, Function.update_self]
      exact ⟨sorted', past', rfl, own⟩
    · rw [nextFailures_of_ne (Ne.symm same), Function.update_of_ne same]
      refine ⟨(tracks key).sorted, before key, (tracks key).memory, ?_⟩
      refine ((tracks key).redis.later later).congr fun now after => (others key same now after).symm

/-- A history splits at its first attempt or at a later one. -/
theorem rejections_eq_iff {history : List Attempt} (tracks : Tracks memory.failures redis.keys rows clock)
    (later : ∀ attempt ∈ history, clock ≤ attempt.now) (ordered : history.Pairwise (·.now ≤ ·.now)) :
    (⟨true, false⟩ : App).rejections memory history = (⟨true, true⟩ : App).rejections redis history ↔
      ∀ front attempt back, history = front ++ attempt :: back →
        AllOrNone (front.foldl (nextFailures (clientKey attempt.client)) (rows (clientKey attempt.client)))
          attempt.now := by
  induction history generalizing memory redis rows clock with
  | nil =>
    refine ⟨fun _ front attempt back split => ?_, fun _ => rfl⟩
    cases front <;> cases split
  | cons first rest ih =>
    obtain ⟨before, ordered⟩ := List.pairwise_cons.1 ordered
    have start := later first List.mem_cons_self
    rw [App.rejections, App.rejections, List.cons.injEq, rejected_eq_iff tracks start]
    constructor
    · intro ⟨settled, same⟩ front attempt back split
      have all := (ih (tracks_login tracks start settled) before ordered).1 same
      cases front with
      | nil =>
        obtain ⟨rfl, rfl⟩ := List.cons.inj split
        exact settled
      | cons passed front =>
        obtain ⟨rfl, remaining⟩ := List.cons.inj split
        exact all front attempt back remaining
    · intro all
      have settled := all [] first rest rfl
      refine ⟨settled, (ih (tracks_login tracks start settled) before ordered).2 fun front attempt back split => ?_⟩
      exact all (first :: front) attempt back (congrArg (first :: ·) split)

theorem tracks_initial (clock : Int) : Tracks World.initial.failures World.initial.keys (fun _ => []) clock := by
  intro key
  exact ⟨List.Pairwise.nil, fun time listed => absurd listed List.not_mem_nil, rfl, .absent rfl fun _ _ => rfl⟩

omit [TimeData] in
/-- A time before all of a list of attempts. -/
theorem exists_start (history : List Attempt) (ordered : history.Pairwise (·.now ≤ ·.now)) :
    ∃ clock, ∀ attempt ∈ history, clock ≤ attempt.now := by
  cases history with
  | nil => exact ⟨0, fun attempt listed => absurd listed List.not_mem_nil⟩
  | cons first rest =>
    refine ⟨first.now, fun attempt listed => ?_⟩
    rcases List.mem_cons.1 listed with rfl | listed
    · exact le_rfl
    · exact List.rel_of_pairwise_cons ordered listed

theorem rejections_disabled (redis : Bool) (world : World) (history : List Attempt) :
    (⟨false, redis⟩ : App).rejections world history = history.map fun _ => false := by
  induction history generalizing world with
  | nil => rfl
  | cons attempt rest ih =>
    rw [App.rejections, List.map_cons, ih, App.login]
    cases attempt.correct <;> rfl

/-- The two limiters reject the same attempts of a history iff, at each attempt, eight or more failures in a row of its
client are all recent or none is. -/
theorem limiters_agree_iff (enabled : Bool) (history : List Attempt) (ordered : history.Pairwise (·.now ≤ ·.now)) :
    (⟨enabled, false⟩ : App).rejections .initial history = (⟨enabled, true⟩ : App).rejections .initial history ↔
      (enabled = true → ∀ front attempt back, history = front ++ attempt :: back →
        AllOrNone (failuresInARow (clientKey attempt.client) front) attempt.now) := by
  cases enabled with
  | false =>
    rw [rejections_disabled, rejections_disabled]
    exact iff_of_true rfl fun on => absurd on Bool.false_ne_true
  | true =>
    obtain ⟨clock, later⟩ := exists_start history ordered
    rw [rejections_eq_iff (tracks_initial clock) later ordered]
    exact ⟨fun settled _ => settled, fun settled => settled rfl⟩

end Login

section Demo
attribute [local instance] TimeData.seconds

/-- Eight failures, an attempt that both reject, and a login after the lockout. -/
def shutOutOnce : List Attempt :=
  (List.range 8).map (fun failed => { now := failed }) ++ [{ now := 100 }, { now := 1000, correct := true }]

theorem limiters_agree_once :
    (⟨true, false⟩ : App).rejections .initial shutOutOnce = List.replicate 8 false ++ [true, false] ∧
      ∀ front attempt back, shutOutOnce = front ++ attempt :: back →
        AllOrNone (failuresInARow (clientKey attempt.client) front) attempt.now :=
  ⟨by decide +kernel, (limiters_agree_iff true shutOutOnce (by decide +kernel)).1 (by decide +kernel) rfl⟩

/-- Eight failures that take longer than the window, and an attempt after its end. -/
def spread : List Attempt := (List.range 9).map fun failed => { now := 125 * failed }

theorem limiters_disagree :
    spread.Pairwise (·.now ≤ ·.now) ∧
      (⟨true, false⟩ : App).rejections .initial spread = List.replicate 8 false ++ [true] ∧
      (⟨true, true⟩ : App).rejections .initial spread = List.replicate 9 false := by
  decide +kernel

end Demo

end SoulClaw.Api.Login
