import SoulClaw.Foundation.Ranking
import SoulClaw.Domain.Conversation

/-! The newest messages of a session in the order in which they were recorded. The rows are ordered by a time that all
messages of one transaction share, so that the database may return these in any order. -/

namespace SoulClaw.Domain.RecentMessages
open Foundation Foundation.Ranking Domain.Conversation

/-- The rows come in the given ranking. -/
def placed {rows ranked : List SessionMessage} (ranks : Ranks SessionMessage.createdAt rows ranked) : NewestFirst where
  sort other := if other = rows then ranked else NewestFirst.stable.sort other
  perm other := by
    by_cases same : other = rows
    · rw [if_pos same, same]
      exact ranks.perm
    · rw [if_neg same]
      exact NewestFirst.stable.perm other
  sorted other := by
    by_cases same : other = rows
    · rw [if_pos same]
      exact ranks.sorted
    · rw [if_neg same]
      exact NewestFirst.stable.sorted other

section Limits
variable {db : Database} {sessionId : String}

theorem newestMessages_iff (count : Nat) :
    (∀ newest : NewestFirst, newestMessages newest db sessionId count = (db.ofSession sessionId).rtake count) ↔
      Ascends SessionMessage.createdAt (db.ofSession sessionId) count := by
  rw [← rtake_of_ranks_iff]
  constructor
  · intro reads ranked ranks
    have read := reads (placed ranks)
    rw [newestMessages, Int.toNat_natCast] at read
    simpa [placed] using read
  · intro reads newest
    rw [newestMessages, Int.toNat_natCast]
    exact reads _ ⟨newest.perm _, newest.sorted _⟩

theorem messages_recentContext (service : ConversationService) (newest : NewestFirst) {limit : Nat} (low : 1 ≤ limit)
    (high : limit ≤ 50) :
    (recentContext service newest db sessionId limit).messages = newestMessages newest db sessionId limit := by
  have own : (limit : Int) ≠ 0 := by omega
  have clamped : max 1 (min (limit : Int) 50) = limit := by omega
  simp only [recentContext, if_neg own, clamped]

theorem listMessages_eq (newest : NewestFirst) {limit : Nat} (low : 1 ≤ limit) (high : limit ≤ 500) :
    listMessages newest db sessionId limit = newestMessages newest db sessionId limit := by
  have clamped : max 1 (min (limit : Int) 500) = limit := by omega
  rw [listMessages, clamped]

/-- The last messages are returned in the order in which they were recorded, whatever order the database returns them in,
exactly when each of them has a later time than the messages before it. -/
theorem recent_in_order_iff (service : ConversationService) (db : Database) (sessionId : String) {limit : Nat}
    (low : 1 ≤ limit) (high : limit ≤ 500) :
    (∀ newest : NewestFirst,
      (limit ≤ 50 → (recentContext service newest db sessionId limit).messages = (db.ofSession sessionId).rtake limit) ∧
        listMessages newest db sessionId limit = (db.ofSession sessionId).rtake limit) ↔
      Ascends SessionMessage.createdAt (db.ofSession sessionId) limit := by
  rw [← newestMessages_iff]
  constructor
  · intro reads newest
    rw [← listMessages_eq newest low high]
    exact (reads newest).2
  · intro reads newest
    constructor
    · intro near
      rw [messages_recentContext service newest low near]
      exact reads newest
    · rw [listMessages_eq newest low high]
      exact reads newest

end Limits

section Demo

private def said (role content : String) (createdAt : Nat) : SessionMessage :=
  { sessionId := "desk", turnId := "turn", role, content, createdAt }

/-- One turn in one transaction. -/
private def oneTurn : Database :=
  (Database.record {} (said "user" "How are you?" 7)).record (said "assistant" "Fine." 7)

/-- The answer of a turn may be returned in front of its question. -/
theorem recent_swaps_turn : ¬ ∀ newest : NewestFirst,
    (recentContext {} newest oneTurn "desk" 12).messages = (oneTurn.ofSession "desk").rtake 12 := by
  intro reads
  exact absurd (reads NewestFirst.stable) (by decide)

/-- Two turns, of which each is a message of its own transaction. -/
private def twoTurns : Database :=
  (Database.record {} (said "user" "How are you?" 7)).record (said "user" "Still there?" 9)

theorem recent_keeps_turns : 1 ≤ 12 ∧ 12 ≤ 500 ∧ ∀ newest : NewestFirst,
    (12 ≤ 50 → (recentContext {} newest twoTurns "desk" 12).messages = (twoTurns.ofSession "desk").rtake 12) ∧
      listMessages newest twoTurns "desk" 12 = (twoTurns.ofSession "desk").rtake 12 := by
  have rows : twoTurns.ofSession "desk" = [said "user" "How are you?" 7] ++ [said "user" "Still there?" 9] := by decide
  refine ⟨by decide, by decide, (recent_in_order_iff {} twoTurns "desk" (by decide) (by decide)).2 ?_⟩
  rw [rows, ascends_concat]
  refine ⟨?_, ?_⟩
  · intro earlier member
    rw [List.mem_singleton.1 member]
    exact .inr (by decide)
  · rw [← List.nil_append [said "user" "How are you?" 7], ascends_concat]
    exact ⟨fun _ member => absurd member List.not_mem_nil, ascends_nil _⟩

end Demo

end SoulClaw.Domain.RecentMessages
