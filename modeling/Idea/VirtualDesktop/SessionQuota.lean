import Idea.VirtualDesktop.LaunchRequests

/-! # The number of sessions of a user

A request counts the sessions of its user, and much later it stores its own session. Requests of
one user that overlap may all pass the count.
-/

namespace Idea.VirtualDesktop.Launch

/-- The keys of the stored sessions. A request that counted the sessions of a user is remembered
until a session of that user is stored. -/
structure Sessions (ι : Type) where
  stored : Finset (String × String)
  counted : ι → Option String

namespace Sessions

variable {ι : Type}

def count (self : Sessions ι) (username : String) : ℕ :=
  (self.stored.filter fun key => key.1 = username).card

def put (self : Sessions ι) (key : String × String) : Sessions ι where
  stored := insert key self.stored
  counted j := if self.counted j = some key.1 then none else self.counted j

theorem count_put_le (self : Sessions ι) (key : String × String) (username : String) :
    (self.put key).count username ≤
      self.count username + if key.1 = username then 1 else 0 := by
  unfold count put
  rw [Finset.filter_insert]
  split
  · exact Finset.card_insert_le _ _
  · exact Nat.le_refl _

end Sessions

variable {ι : Type}

def removal (s s' : Sessions ι) : Prop := s'.stored ⊆ s.stored ∧ s'.counted = s.counted

/-- What a request relies on while it goes by its count. -/
structure Rely (i : ι) (s s' : Sessions ι) : Prop where
  counted : ∀ username, s'.counted i = some username →
    s.counted i = some username ∧ s'.count username ≤ s.count username

theorem Rely.refl (i : ι) (s : Sessions ι) : Rely i s s := ⟨fun _ h => ⟨h, le_rfl⟩⟩

theorem Rely.trans (i : ι) {s s' s'' : Sessions ι} (h : Rely i s s') (h' : Rely i s' s'') :
    Rely i s s'' := by
  refine ⟨fun username hcounted => ?_⟩
  obtain ⟨hcounted', hle'⟩ := h'.counted username hcounted
  obtain ⟨hcounted'', hle⟩ := h.counted username hcounted'
  exact ⟨hcounted'', hle'.trans hle⟩

theorem Rely.put (i : ι) (s : Sessions ι) (key : String × String) : Rely i s (s.put key) := by
  refine ⟨fun username hcounted => ?_⟩
  simp only [Sessions.put] at hcounted
  split at hcounted
  · cases hcounted
  · next hother =>
    refine ⟨hcounted, (s.count_put_le key username).trans ?_⟩
    have hne : key.1 ≠ username := fun h => hother (hcounted.trans (congrArg some h.symm))
    rw [if_neg hne, Nat.add_zero]

theorem Rely.removal (i : ι) {s s' : Sessions ι} (h : removal s s') : Rely i s s' := by
  refine ⟨fun username hcounted => ⟨h.2 ▸ hcounted, ?_⟩⟩
  exact Finset.card_le_card (Finset.filter_subset_filter _ h.1)

variable [DecidableEq ι]

/-- What a call of a request does to the sessions. A call that fails to store one may have done
so. -/
def effect (i : ι) : (op : Op) → Sessions ι → Answer op → Sessions ι → Prop
  | .countSessions username, s, answer, s' =>
    (answer = .ok (s.count username) ∧
      s' = { s with counted := Function.update s.counted i (some username) }) ∨
    ((∀ n, answer ≠ .ok n) ∧ s' = s)
  | .putSession owner ideaSessionId, s, answer, s' =>
    s' = s.put (owner, ideaSessionId) ∨ (answer ≠ .ok () ∧ s' = s)
  | _, s, _, s' => s' = s

def requests (config : Config) :
    ThreadSystem ι Op Answer Stop VirtualDesktopSession (Sessions ι) where
  starts _ program := ∃ username session, program = createSession config username session
  effect := effect
  outside := removal

/-- No session of the owner was stored since the request counted them. -/
def CountedLast (i : ι) : (op : Op) → Sessions ι → Answer op → Prop
  | .putSession owner _, s, _ => s.counted i = some owner
  | _, _, _ => True

/-- A session is stored only while its owner has fewer than allowed. -/
def WithinQuota (allowed : ℤ) (_ : ι) : (op : Op) → Sessions ι → Answer op → Prop
  | .putSession owner _, s, _ => (s.count owner : ℤ) < allowed
  | _, _, _ => True

variable {config : Config} {allowed : ℤ}

def quota (config : Config) (allowed : ℤ) :
    ThreadSystem.Contract (requests (ι := ι) config) where
  rely := Rely
  rely_refl := Rely.refl
  rely_trans := Rely.trans
  rely_outside i _ _ h := Rely.removal i h
  allowed := CountedLast
  meets := WithinQuota allowed
  idle _ _ := True

/-- The calls that leave the sessions and the counts alone. -/
def Op.Quiet : Op → Prop
  | .countSessions _ | .putSession _ _ => False
  | _ => True

section Quiet

open Program (OnlyCalls)

variable {α : Type} {session : VirtualDesktopSession} {username : String}

theorem ask_quiet {op : Op} (h : op.Quiet) : (ask op).OnlyCalls Op.Quiet := .perform h

end Quiet

section Requests

open Program (Ensures Stable)

variable {i : ι} {P : Sessions ι → Prop}

theorem true_stable : Stable ((quota config allowed).terms i) fun _ => True :=
  fun _ _ _ _ => trivial

end Requests

section Runs

open ThreadSystem

end Runs

section TwoRequests

def oracle (i : Bool) : (op : Op) → Sessions Bool → Answer op × Sessions Bool
  | .countSessions username, s => (.ok (s.count username),
      { s with counted := Function.update s.counted i (some username) })
  | .putSession owner ideaSessionId, s => (.ok (), s.put (owner, ideaSessionId))
  | op, s => (sampleAnswer (if i then "session-1" else "session-2") op, s)

theorem effect_oracle (i : Bool) (op : Op) (s : Sessions Bool) :
    effect i op s (oracle i op s).1 (oracle i op s).2 := by
  cases op with
  | countSessions _ | putSession _ _ => exact .inl (by trivial)
  | _ => rfl

end TwoRequests

end Idea.VirtualDesktop.Launch
