import Idea.QueueProfiles.SharedQueues

/-! # Lookups without shared keys

A scan returns the items in some order, so a lookup by a name or a queue of several profiles may
answer any of them. In a table without such keys it answers the one profile that has the key.
-/

namespace Idea.QueueProfiles

open HpcQueueProfilesDAO HpcQueueProfilesService

variable {ctx : ServiceContext} {table : ProfilesTable} {id : String} {item : DbQueueProfile}
  {key : ProfileKey} {queueProfile : HpcQueueProfile}

def TrimmedName (name : Option String) : Prop := ∃ n, name = some n ∧ getAsString n = some n

def HasKey (id : String) (item : DbQueueProfile) : ProfileKey → Prop
  | .id queueProfileId => queueProfileId = id
  | .name queueProfileName => item.name = some queueProfileName
  | .queue queueName => queueName ∈ queuesOf item

/-- The names are trimmed, and no two profiles have a name or a queue in common. -/
structure Unshared (table : ProfilesTable) : Prop where
  trimmed : ∀ id item, table.get? id = some item → TrimmedName item.name
  names : ∀ id₁ item₁ id₂ item₂, table.get? id₁ = some item₁ → table.get? id₂ = some item₂ →
    item₁.name = item₂.name → id₁ = id₂
  queues : QueuesDisjoint table

/-- A name is trimmed, and no other stored profile has it or one of the queues. -/
structure Exclusive (table : ProfilesTable) (id : String) (name : Option String)
    (queueNames : List String) : Prop where
  trimmed : TrimmedName name
  name : ∀ id' item, table.get? id' = some item → id' ≠ id → item.name ≠ name
  queues : Free table id queueNames

theorem name_of_decoded (hwf : WellFormedItem id item) (hname : TrimmedName item.name)
    (hp : convertFromDb item = .ok queueProfile) : queueProfile.name = item.name := by
  obtain ⟨p, hp', -, hread, -⟩ := hwf.convertFromDb
  obtain rfl := Except.ok.inj (hp'.symm.trans hp)
  obtain ⟨n, hn, htrimmed⟩ := hname
  rw [hread, hn]
  exact htrimmed

theorem mem_keysOf_iff (hwf : WellFormedItem id item) (hname : TrimmedName item.name)
    (hp : convertFromDb item = .ok queueProfile) :
    key ∈ keysOf queueProfile ↔ HasKey id item key := by
  have hread := name_of_decoded hwf hname hp
  obtain ⟨p, hp', hown, -, -, hqueues⟩ := hwf.convertFromDb
  obtain rfl := Except.ok.inj (hp'.symm.trans hp)
  obtain ⟨n, hn, -⟩ := hname
  unfold keysOf
  rw [hown, hread, hqueues, hn]
  cases key with
  | id _ => simp [HasKey]
  | name _ => simp [HasKey, hn, eq_comm]
  | queue _ => simp [HasKey]

theorem find?_scan_eq_some_iff {P : DbQueueProfile → Bool}
    (hunique : ∀ id₁ item₁ id₂ item₂, table.get? id₁ = some item₁ →
      table.get? id₂ = some item₂ → P item₁ = true → P item₂ = true → id₁ = id₂) :
    (ctx.scan table).find? P = some item ↔
      ∃ id, table.get? id = some item ∧ P item = true := by
  constructor
  · intro hfind
    obtain ⟨id, hid⟩ := exists_id_of_mem_scan (List.mem_of_find?_eq_some hfind)
    exact ⟨id, hid, List.find?_some hfind⟩
  · rintro ⟨id, hid, hP⟩
    obtain ⟨item', hfind⟩ := Option.isSome_iff_exists.mp
      (List.find?_isSome.mpr ⟨item, mem_scan_of_get? hid, hP⟩)
    obtain ⟨id', hid'⟩ := exists_id_of_mem_scan (List.mem_of_find?_eq_some hfind)
    obtain rfl := hunique id item id' item' hid hid' hP (List.find?_some hfind)
    rw [hfind, ← hid, hid']

theorem Exclusive.eq_of_hasKey (h : Exclusive table id item.name (queuesOf item)) {id' : String}
    {item' : DbQueueProfile} (hitem' : table.get? id' = some item') (hkey : HasKey id item key)
    (hkey' : HasKey id' item' key) : id' = id := by
  by_contra hne
  cases key with
  | id _ => exact hne (hkey'.symm.trans hkey)
  | name _ => exact h.name id' item' hitem' hne (Eq.trans hkey' (Eq.symm hkey))
  | queue queueName => exact h.queues id' item' hitem' hne queueName hkey hkey'

theorem name_ne_of_lookup (ctx : ServiceContext) {n : String}
    (h : getQueueProfileByName ctx table n = none) (hitem : table.get? id = some item) :
    item.name ≠ some n := by
  intro heq
  have hnone := List.find?_eq_none.mp
    (show (ctx.scan table).find? (fun item => decide (item.name = some n)) = none from h)
  exact hnone item (mem_scan_of_get? hitem) (decide_eq_true heq)

namespace Unshared

theorem lookup_eq_some_iff (h : Unshared table) :
    lookup ctx table key = some item ↔ ∃ id, table.get? id = some item ∧ HasKey id item key := by
  cases key with
  | id queueProfileId =>
    exact ⟨fun hget => ⟨queueProfileId, hget, rfl⟩, fun ⟨id, hget, heq⟩ => heq ▸ hget⟩
  | name queueProfileName =>
    refine (find?_scan_eq_some_iff fun id₁ item₁ id₂ item₂ h₁ h₂ hn₁ hn₂ => ?_).trans ?_
    · exact h.names id₁ item₁ id₂ item₂ h₁ h₂
        ((of_decide_eq_true hn₁).trans (of_decide_eq_true hn₂).symm)
    · simp only [decide_eq_true_eq, HasKey]
  | queue queueName =>
    refine (find?_scan_eq_some_iff fun id₁ item₁ id₂ item₂ h₁ h₂ hq₁ hq₂ => ?_).trans ?_
    · exact h.queues id₁ item₁ id₂ item₂ h₁ h₂ queueName (of_decide_eq_true hq₁)
        (of_decide_eq_true hq₂)
    · simp only [decide_eq_true_eq, HasKey]

theorem exclusive (h : Unshared table) (hitem : table.get? id = some item) :
    Exclusive table id item.name (queuesOf item) where
  trimmed := h.trimmed id item hitem
  name := fun id' item' hitem' hne heq => hne (h.names id' item' id item hitem' hitem heq)
  queues := h.queues.free hitem

theorem set (h : Unshared table) (hexclusive : Exclusive table id item.name (queuesOf item)) :
    Unshared (table.set id item) where
  trimmed := by
    intro id' item' hitem'
    rw [Dict.get?_set] at hitem'
    split at hitem'
    · exact Option.some.inj hitem' ▸ hexclusive.trimmed
    · exact h.trimmed id' item' hitem'
  names := by
    intro id₁ item₁ id₂ item₂ h₁ h₂ heq
    rw [Dict.get?_set] at h₁ h₂
    split at h₁
    · rename_i heq₁
      obtain rfl := Option.some.inj h₁
      split at h₂
      · rename_i heq₂
        exact heq₁.trans heq₂.symm
      · rename_i hne₂
        exact absurd heq.symm (hexclusive.name id₂ item₂ h₂ hne₂)
    · rename_i hne₁
      split at h₂
      · obtain rfl := Option.some.inj h₂
        exact absurd heq (hexclusive.name id₁ item₁ h₁ hne₁)
      · exact h.names id₁ item₁ id₂ item₂ h₁ h₂ heq
  queues := h.queues.set hexclusive.queues

theorem erase (h : Unshared table) (id : String) : Unshared (table.erase id) where
  trimmed := by
    intro id' item' hitem'
    rw [Dict.get?_erase] at hitem'
    split at hitem'
    · cases hitem'
    · exact h.trimmed id' item' hitem'
  names := by
    intro id₁ item₁ id₂ item₂ h₁ h₂
    rw [Dict.get?_erase] at h₁ h₂
    split at h₁
    · cases h₁
    split at h₂
    · cases h₂
    exact h.names id₁ item₁ id₂ item₂ h₁ h₂
  queues := h.queues.erase id

theorem lookup_set_of_not (h : Unshared table)
    (hexclusive : Exclusive table id item.name (queuesOf item))
    (hold : ∀ old, table.get? id = some old → ¬ HasKey id old key)
    (hnew : ¬ HasKey id item key) : lookup ctx (table.set id item) key = lookup ctx table key := by
  refine Option.ext fun item' => ?_
  rw [(h.set hexclusive).lookup_eq_some_iff, h.lookup_eq_some_iff]
  refine exists_congr fun id' => and_congr_left fun hkey => ?_
  rw [Dict.get?_set]
  split
  · rename_i heq
    subst heq
    refine iff_of_false (fun heq => ?_) fun hget => hold item' hget hkey
    exact hnew (Option.some.inj heq ▸ hkey)
  · rfl

theorem lookup_erase_of_not (h : Unshared table)
    (hold : ∀ old, table.get? id = some old → ¬ HasKey id old key) :
    lookup ctx (table.erase id) key = lookup ctx table key := by
  refine Option.ext fun item' => ?_
  rw [(h.erase id).lookup_eq_some_iff, h.lookup_eq_some_iff]
  refine exists_congr fun id' => and_congr_left fun hkey => ?_
  rw [Dict.get?_erase]
  split
  · rename_i heq
    subst heq
    exact iff_of_false (fun he => by cases he) fun hget => hold item' hget hkey
  · rfl

end Unshared

end Idea.QueueProfiles
