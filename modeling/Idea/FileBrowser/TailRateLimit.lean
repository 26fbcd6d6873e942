import Idea.Data.Dict
import Idea.FileBrowser.TailFile
import Idea.System.SlidingWindow
import Mathlib.Algebra.Order.Ring.Rat
import Mathlib.Data.Finset.Card

/-! # The rate limit for following files

The times of each user's requests are kept in a table of the process, and the users in a set beside
it. A request prunes the times of its user, and now and then the whole table is cleaned up.
-/

namespace Idea.FileBrowser

open SlidingWindow

def TAIL_FILE_RATE_LIMIT_WINDOW : ℚ := 60

def TAIL_FILE_MAX_REQUESTS_PER_WINDOW : ℕ := 20

def TAIL_FILE_MAX_CONCURRENT_USERS : ℕ := 50

def RATE_LIMIT_MAX_ENTRIES : ℕ := 200

structure TailState where
  tailRateLimits : Dict String (List ℚ)
  activeTailUsers : Finset String
  lastGlobalCleanup : ℚ

namespace TailState

def initial : TailState := ⟨∅, ∅, 0⟩

def tooManyUsers : Raised :=
  .soca FILE_BROWSER_TAIL_THROTTLE
    (s!"Maximum concurrent tail users ({TAIL_FILE_MAX_CONCURRENT_USERS}) reached. " ++
      "Please try again later.")

def limitExceeded : Raised :=
  .soca FILE_BROWSER_TAIL_THROTTLE
    (s!"Rate limit exceeded. Maximum {TAIL_FILE_MAX_REQUESTS_PER_WINDOW} tail requests per " ++
      s!"{TAIL_FILE_RATE_LIMIT_WINDOW} seconds.")

def times (s : TailState) (username : String) : List ℚ :=
  (s.tailRateLimits.get? username).getD []

/-- `_check_tail_rate_limit`, with the state that it leaves. -/
def checkTailRateLimit (username : String) (now : ℚ) (s : TailState) :
    Except Raised Unit × TailState :=
  if TAIL_FILE_MAX_CONCURRENT_USERS ≤ s.activeTailUsers.card ∧ username ∉ s.activeTailUsers then
    (.error tooManyUsers, s)
  else
    let recent := counting TAIL_FILE_RATE_LIMIT_WINDOW now (s.times username)
    let s' := { s with
      tailRateLimits := s.tailRateLimits.set username recent
      activeTailUsers := insert username s.activeTailUsers }
    if TAIL_FILE_MAX_REQUESTS_PER_WINDOW ≤ recent.length then (.error limitExceeded, s')
    else
      (.ok (), { s' with
        tailRateLimits := s'.tailRateLimits.set username (recent ++ [now]) })

def cleanUser (now : ℚ) (s : TailState) (user : String) : TailState :=
  let recent := counting TAIL_FILE_RATE_LIMIT_WINDOW now (s.times user)
  if recent = [] then
    { s with
      tailRateLimits := s.tailRateLimits.erase user
      activeTailUsers := s.activeTailUsers.erase user }
  else { s with tailRateLimits := s.tailRateLimits.set user recent }

def cleanUsers (now : ℚ) (s : TailState) : TailState :=
  s.tailRateLimits.keys.foldl (cleanUser now) s

def lastRequest (times : List ℚ) : ℚ := times.max?.getD 0

def limitSize (s : TailState) : TailState :=
  if RATE_LIMIT_MAX_ENTRIES < s.tailRateLimits.size then
    let sortedUsers := s.tailRateLimits.entries.mergeSort
      fun a b => lastRequest a.2 ≤ lastRequest b.2
    let latest := (sortedUsers.drop (sortedUsers.length - RATE_LIMIT_MAX_ENTRIES / 2)).foldl
      (fun table e => table.set e.1 e.2) ∅
    { s with tailRateLimits := latest, activeTailUsers := latest.keys.toFinset }
  else s

/-- `_cleanup_global_state` -/
def cleanupGlobalState (now : ℚ) (s : TailState) : TailState :=
  if now - s.lastGlobalCleanup < 30 then s
  else { limitSize (cleanUsers now s) with lastGlobalCleanup := now }

inductive TailAction
  | request (username : String) (now : ℚ)
  | cleanup (now : ℚ)

def TailAction.now : TailAction → ℚ
  | .request _ now => now
  | .cleanup now => now

def Step (s : TailState) (action : TailAction) (s' : TailState) : Prop :=
  match action with
  | .request username now => s' = (s.checkTailRateLimit username now).2
  | .cleanup now => s' = s.cleanupGlobalState now

def passedAt (username : String) (e : Edge TailState TailAction) : Option ℚ :=
  match e.label with
  | .request name now =>
    if name = username ∧ (e.pre.checkTailRateLimit name now).1 = .ok () then some now else none
  | .cleanup _ => none

def passed (username : String) (edges : List (Edge TailState TailAction)) : List ℚ :=
  edges.filterMap (passedAt username)

variable {s s' : TailState} {now : ℚ} {user username : String}
  {edges : List (Edge TailState TailAction)}

theorem times_of_set (table : Dict String (List ℚ)) (active : Finset String) (last : ℚ)
    (user username : String) (recent : List ℚ) :
    times ⟨table.set user recent, active, last⟩ username =
      if username = user then recent else times ⟨table, active, last⟩ username := by
  unfold times
  rw [Dict.get?_set]
  split <;> rfl

theorem times_of_erase (table : Dict String (List ℚ)) (active active' : Finset String) (last : ℚ)
    (user username : String) :
    times ⟨table.erase user, active', last⟩ username =
      if username = user then [] else times ⟨table, active, last⟩ username := by
  unfold times
  rw [Dict.get?_erase]
  split <;> rfl

/-- The users of the set are those of the table, and not too many. -/
structure Coherent (s : TailState) : Prop where
  active : s.activeTailUsers = s.tailRateLimits.keys.toFinset
  few : s.activeTailUsers.card ≤ TAIL_FILE_MAX_CONCURRENT_USERS

theorem toFinset_keys_set (table : Dict String (List ℚ)) (user : String) (recent : List ℚ) :
    (table.set user recent).keys.toFinset = insert user table.keys.toFinset := by
  ext name
  simp

theorem toFinset_keys_erase (table : Dict String (List ℚ)) (user : String) :
    (table.erase user).keys.toFinset = table.keys.toFinset.erase user := by
  ext name
  simp [and_comm]

theorem Coherent.size_le (h : Coherent s) : s.tailRateLimits.size ≤ RATE_LIMIT_MAX_ENTRIES := by
  have hcard : s.tailRateLimits.size = s.activeTailUsers.card := by
    rw [h.active, List.toFinset_card_of_nodup s.tailRateLimits.nodup_keys, Dict.keys,
      List.length_map]
    rfl
  rw [hcard]
  exact h.few.trans (by decide)

theorem Coherent.checkTailRateLimit (h : Coherent s) (username : String) (now : ℚ) :
    Coherent (s.checkTailRateLimit username now).2 := by
  unfold TailState.checkTailRateLimit
  split
  · exact h
  · rename_i hroom
    have hfew : (insert username s.activeTailUsers).card ≤ TAIL_FILE_MAX_CONCURRENT_USERS := by
      by_cases hmem : username ∈ s.activeTailUsers
      · rw [Finset.insert_eq_of_mem hmem]
        exact h.few
      · rw [Finset.card_insert_of_notMem hmem]
        by_contra hfull
        exact hroom ⟨by omega, hmem⟩
    have hkeys : insert username s.activeTailUsers =
        insert username s.tailRateLimits.keys.toFinset := by rw [h.active]
    dsimp only
    split
    · exact ⟨hkeys.trans (toFinset_keys_set _ _ _).symm, hfew⟩
    · refine ⟨?_, hfew⟩
      rw [toFinset_keys_set, toFinset_keys_set, Finset.insert_idem]
      exact hkeys

theorem Coherent.cleanUser (h : Coherent s) (now : ℚ) (user : String) :
    Coherent (s.cleanUser now user) := by
  unfold TailState.cleanUser
  dsimp only
  split
  · refine ⟨?_, (Finset.card_erase_le).trans h.few⟩
    rw [toFinset_keys_erase, ← h.active]
  · rename_i hrecent
    have hmem : user ∈ s.activeTailUsers := by
      rw [h.active, List.mem_toFinset]
      by_contra hmem
      rw [times, Dict.get?_eq_none.mpr hmem] at hrecent
      exact hrecent rfl
    refine ⟨?_, h.few⟩
    rw [toFinset_keys_set, ← h.active, Finset.insert_eq_of_mem hmem]

theorem Coherent.cleanUsers (h : Coherent s) (now : ℚ) : Coherent (s.cleanUsers now) := by
  unfold TailState.cleanUsers
  generalize s.tailRateLimits.keys = users
  induction users generalizing s with
  | nil => exact h
  | cons user users ih => exact ih (h.cleanUser now user)

theorem Coherent.limitSize_eq (h : Coherent s) : s.limitSize = s :=
  if_neg (Nat.not_lt.mpr h.size_le)

theorem Coherent.cleanupGlobalState (h : Coherent s) (now : ℚ) :
    Coherent (s.cleanupGlobalState now) := by
  unfold TailState.cleanupGlobalState
  split
  · exact h
  · have hclean := h.cleanUsers now
    rw [hclean.limitSize_eq]
    exact ⟨hclean.active, hclean.few⟩

theorem Coherent.step {action : TailAction} (h : Coherent s) (hs : Step s action s') :
    Coherent s' := by
  cases action with
  | request username now =>
    obtain rfl := hs
    exact h.checkTailRateLimit username now
  | cleanup now =>
    obtain rfl := hs
    exact h.cleanupGlobalState now

/-- The table has all the times that still count, and the limit holds. -/
structure Limits (s : TailState) (now : ℚ) (log : String → List ℚ) : Prop where
  keeps : ∀ user, SlidingWindow.Keeps TAIL_FILE_RATE_LIMIT_WINDOW now (s.times user) (log user)
  limited : ∀ user,
    Limited TAIL_FILE_RATE_LIMIT_WINDOW TAIL_FILE_MAX_REQUESTS_PER_WINDOW (log user)

variable {log : String → List ℚ}

theorem Limits.cleanUser (h : Limits s now log) (user : String) :
    Limits (s.cleanUser now user) now log := by
  refine ⟨fun username => ?_, h.limited⟩
  have htimes : (s.cleanUser now user).times username =
      if username = user then counting TAIL_FILE_RATE_LIMIT_WINDOW now (s.times user)
      else s.times username := by
    unfold TailState.cleanUser
    dsimp only
    split
    · rename_i hnil
      rw [hnil]
      exact times_of_erase _ _ _ _ _ _
    · exact times_of_set _ _ _ _ _ _
  rw [htimes]
  split
  · rename_i heq
    rw [heq]
    exact (h.keeps user).prune
  · exact h.keeps username

theorem Limits.cleanUsers (h : Limits s now log) : Limits (s.cleanUsers now) now log := by
  unfold TailState.cleanUsers
  generalize s.tailRateLimits.keys = users
  induction users generalizing s with
  | nil => exact h
  | cons user users ih => exact ih (h.cleanUser user)

theorem Limits.cleanupGlobalState (h : Limits s now log) (hcoherent : Coherent s) :
    Limits (s.cleanupGlobalState now) now log := by
  unfold TailState.cleanupGlobalState
  split
  · exact h
  · have hclean := h.cleanUsers
    rw [(hcoherent.cleanUsers now).limitSize_eq]
    exact ⟨hclean.keeps, hclean.limited⟩

theorem Limits.checkTailRateLimit (h : Limits s now log) (username : String) :
    Limits (s.checkTailRateLimit username now).2 now fun user =>
      log user ++ if username = user ∧ (s.checkTailRateLimit username now).1 = .ok () then [now]
        else [] := by
  have hset : ∀ recent active user,
      times ⟨s.tailRateLimits.set username recent, active, s.lastGlobalCleanup⟩ user =
        if user = username then recent else s.times user :=
    fun recent active user => times_of_set _ _ _ _ _ _
  unfold TailState.checkTailRateLimit
  split
  · simpa using h
  · dsimp only
    split
    · simp only [reduceCtorEq, and_false, if_false, List.append_nil]
      refine ⟨fun user => ?_, h.limited⟩
      rw [hset]
      split
      · rename_i heq
        rw [heq]
        exact (h.keeps username).prune
      · exact h.keeps user
    · rename_i hless
      simp only [and_true]
      refine ⟨fun user => ?_, fun user => ?_⟩
      · rw [times_of_set, hset]
        by_cases heq : user = username
        · rw [if_pos heq, if_pos heq.symm, heq]
          exact (h.keeps username).prune.add
        · rw [if_neg heq, if_neg heq, if_neg (Ne.symm heq), List.append_nil]
          exact h.keeps user
      · split
        · rename_i heq
          rw [← heq]
          exact (h.limited username).add (h.keeps username) (Nat.lt_of_not_le hless)
        · rw [List.append_nil]
          exact h.limited user

theorem Limits.mono {later : ℚ} (h : Limits s now log) (hle : now ≤ later) :
    Limits s later log :=
  ⟨fun user => (h.keeps user).mono hle, h.limited⟩

theorem Limits.step {action : TailAction} (h : Limits s action.now log) (hcoherent : Coherent s)
    (hs : Step s action s') :
    Limits s' action.now fun user => log user ++ (passedAt user ⟨s, action, s'⟩).toList := by
  cases action with
  | request username now =>
    obtain rfl := hs
    have hrequest := h.checkTailRateLimit username
    have hpassed : ∀ user s', (passedAt user ⟨s, .request username now, s'⟩).toList =
        if username = user ∧ (s.checkTailRateLimit username now).1 = .ok () then [now] else [] := by
      intro user s'
      unfold passedAt
      dsimp only
      split <;> rfl
    simp only [hpassed]
    exact hrequest
  | cleanup now =>
    obtain rfl := hs
    simp only [passedAt, Option.toList_none, List.append_nil]
    exact h.cleanupGlobalState hcoherent

end TailState

end Idea.FileBrowser
