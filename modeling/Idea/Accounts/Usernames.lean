import Idea.Model.Texts

/-! # Names of users

A name is stripped and put in lower case before a user is looked up, so that the tables have no
other names.
-/

namespace Idea.Accounts

theorem toLower_cases (c : Char) :
    c.toLower = c ∨ 65 ≤ c.toNat ∧ c.toNat ≤ 90 ∧ c.toLower.toNat = c.toNat + 32 := by
  unfold Char.toLower
  split
  · next h =>
    right
    have hlow : 65 ≤ c.val.toNat := h.1
    have hhigh : c.val.toNat ≤ 90 := h.2
    refine ⟨hlow, hhigh, ?_⟩
    have hsum : (c.val + ('a'.val - 'A'.val)).toNat = (c.val.toNat + 32) % 2 ^ 32 :=
      UInt32.toNat_add _ _
    have hval : ∀ h, (⟨c.val + ('a'.val - 'A'.val), h⟩ : Char).toNat =
        (c.val + ('a'.val - 'A'.val)).toNat := fun _ => rfl
    rw [hval, hsum, Nat.mod_eq_of_lt (by omega)]
    rfl
  · exact .inl rfl

theorem isSpace_toLower (c : Char) : isSpace c.toLower = isSpace c := by
  rcases toLower_cases c with h | ⟨hlow, hhigh, h⟩
  · rw [h]
  · have hupper : isSpace c = false := by
      simp only [isSpace, Bool.or_eq_false_iff, Bool.and_eq_false_iff, decide_eq_false_iff_not]
      omega
    have hlower : isSpace c.toLower = false := by
      simp only [isSpace, Bool.or_eq_false_iff, Bool.and_eq_false_iff, decide_eq_false_iff_not]
      omega
    rw [hupper, hlower]

theorem toLower_toLower (c : Char) : c.toLower.toLower = c.toLower := by
  rcases toLower_cases c.toLower with h | ⟨hlow, hhigh, h⟩
  · exact h
  · rcases toLower_cases c with h' | ⟨hlow', hhigh', h'⟩
    · rw [h', h']
    · omega

theorem stripChars_map_toLower (cs : List Char) :
    stripChars (cs.map Char.toLower) = (stripChars cs).map Char.toLower := by
  have hdrop : ∀ ds : List Char, (ds.map Char.toLower).dropWhile isSpace =
      (ds.dropWhile isSpace).map Char.toLower := by
    intro ds
    rw [List.dropWhile_map]
    congr 2
    exact funext isSpace_toLower
  rw [stripChars, stripChars, hdrop, ← List.map_reverse, hdrop, ← List.map_reverse]

def lower (text : String) : String := String.ofList (text.toList.map Char.toLower)

/-- `username.strip().lower()`. -/
def sanitized (username : String) : String := lower (strip username)

theorem toList_sanitized (username : String) :
    (sanitized username).toList = (stripChars username.toList).map Char.toLower := by
  simp only [sanitized, lower, strip, String.toList_ofList]

theorem sanitized_sanitized (username : String) :
    sanitized (sanitized username) = sanitized username := by
  have hlower : Char.toLower ∘ Char.toLower = Char.toLower := funext toLower_toLower
  have htoList : (sanitized (sanitized username)).toList = (sanitized username).toList := by
    rw [toList_sanitized, toList_sanitized, stripChars_map_toLower, stripChars_stripChars,
      List.map_map, hlower]
  exact String.toList_inj.mp htoList

theorem lower_sanitized (username : String) : lower (sanitized username) = sanitized username := by
  have hlower : Char.toLower ∘ Char.toLower = Char.toLower := funext toLower_toLower
  rw [lower, toList_sanitized, List.map_map, hlower, ← toList_sanitized, String.ofList_toList]

theorem isEmptyString_sanitized (username : String) :
    isEmptyString (some (sanitized username)) = isEmptyString (some username) := by
  simp only [isEmptyString, toList_sanitized, stripChars_map_toLower, stripChars_stripChars,
    List.isEmpty_map]

/-- A name under which a user is stored. -/
structure Username where
  text : String
  sanitized_text : sanitized text = text
  nonempty : isEmptyString (some text) = false
  deriving DecidableEq

namespace Username

theorem text_inj {u v : Username} : u.text = v.text ↔ u = v := by
  cases u
  cases v
  simp

theorem lower_text (self : Username) : lower self.text = self.text := by
  rw [← self.sanitized_text, lower_sanitized]

end Username

def sanitizedName (username : String) (h : isEmptyString (some username) = false) : Username where
  text := sanitized username
  sanitized_text := sanitized_sanitized username
  nonempty := (isEmptyString_sanitized username).trans h

/-- `AuthUtils.sanitize_username`. -/
def sanitizeUsername (username : String) : Except Raised Username :=
  if h : isEmptyString (some username) = false then .ok (sanitizedName username h)
  else .error (invalidParams "username is required")

theorem sanitizeUsername_cases (username : String) :
    sanitizeUsername username = .error (invalidParams "username is required") ∧
        isEmptyString (some username) = true ∨
      ∃ u : Username, sanitizeUsername username = .ok u ∧ u.text = sanitized username ∧
        isEmptyString (some username) = false := by
  unfold sanitizeUsername
  split
  · next h => exact .inr ⟨sanitizedName username h, rfl, rfl, h⟩
  · next h => exact .inl ⟨rfl, Bool.not_eq_false _ ▸ h⟩

theorem sanitizeUsername_eq_ok {username : String} {u : Username}
    (h : sanitizeUsername username = .ok u) : u.text = sanitized username := by
  rcases sanitizeUsername_cases username with ⟨he, -⟩ | ⟨v, hv, htext, -⟩
  · rw [he] at h
    cases h
  · rw [hv] at h
    obtain rfl := Except.ok.inj h
    exact htext

@[simp] theorem sanitizeUsername_text (u : Username) : sanitizeUsername u.text = .ok u := by
  rcases sanitizeUsername_cases u.text with ⟨-, hempty⟩ | ⟨v, hv, htext, -⟩
  · exact absurd hempty (Bool.eq_false_iff.mp u.nonempty)
  · rw [hv, Username.text_inj.mp (htext.trans u.sanitized_text)]

end Idea.Accounts
