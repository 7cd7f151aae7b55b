/-!
# Text: affixes, substrings and separators

All of it is on lists of characters. `replaceAll` reads from left to right and never looks again at
what it has put in; `splitOn` cuts at every separator, so a text without one is a single piece.
-/

namespace Detour

namespace Text

/-- What follows `pre` in `s`, when `s` starts with it. -/
def afterPrefix? : List Char → List Char → Option (List Char)
  | [], s => some s
  | _ :: _, [] => none
  | p :: pre, c :: s => if p = c then afterPrefix? pre s else none

/-- What precedes `suf` in `s`, when `s` ends with it. -/
def beforeSuffix? (suf s : List Char) : Option (List Char) :=
  (afterPrefix? suf.reverse s.reverse).map List.reverse

/-- Whether `pat` occurs in `s`. -/
def contains (pat : List Char) : List Char → Bool
  | [] => pat.isEmpty
  | c :: s => pat.isPrefixOf (c :: s) || contains pat s

/-- The work of `replaceAll`: the first argument counts the characters of an occurrence that are
still to be passed over. -/
def replaceFrom (pat new : List Char) : Nat → List Char → List Char
  | _, [] => []
  | k + 1, _ :: s => replaceFrom pat new k s
  | 0, c :: s =>
    if pat.isPrefixOf (c :: s) then new ++ replaceFrom pat new (pat.length - 1) s
    else c :: replaceFrom pat new 0 s

/-- Every occurrence of the non-empty `pat`, from left to right and without overlaps, replaced by
`new`. -/
def replaceAll (pat new s : List Char) : List Char :=
  replaceFrom pat new 0 s

/-- The pieces of a text between the occurrences of `sep`. -/
def splitOn (sep : Char) : List Char → List (List Char)
  | [] => [[]]
  | c :: s =>
    if c = sep then [] :: splitOn sep s
    else
      match splitOn sep s with
      | [] => [[c]]
      | piece :: rest => (c :: piece) :: rest

/-- The text before the first occurrence of `sep` and the text behind it. -/
def cut? (sep : Char) : List Char → Option (List Char × List Char)
  | [] => none
  | c :: s => if c = sep then some ([], s) else (cut? sep s).map fun (a, b) => (c :: a, b)

@[simp] theorem afterPrefix?_append (pre s : List Char) : afterPrefix? pre (pre ++ s) = some s := by
  induction pre with
  | nil => rfl
  | cons p pre ih => simp [afterPrefix?, ih]

theorem eq_append_of_afterPrefix? {pre s r : List Char} (h : afterPrefix? pre s = some r) :
    s = pre ++ r := by
  induction pre generalizing s with
  | nil => simpa [afterPrefix?] using h
  | cons p pre ih =>
    cases s with
    | nil => simp [afterPrefix?] at h
    | cons c s =>
      by_cases hc : p = c
      · simp only [afterPrefix?, hc, if_true] at h
        simp [hc, ih h]
      · simp [afterPrefix?, hc] at h

/-- The text behind a prefix is found exactly when the text starts with it. -/
theorem afterPrefix?_eq_some_iff {pre s r : List Char} :
    afterPrefix? pre s = some r ↔ s = pre ++ r :=
  ⟨eq_append_of_afterPrefix?, fun h => h ▸ afterPrefix?_append pre r⟩

/-- The text before a suffix is found exactly when the text ends with it. -/
theorem beforeSuffix?_eq_some_iff {suf s r : List Char} :
    beforeSuffix? suf s = some r ↔ s = r ++ suf := by
  simp only [beforeSuffix?, Option.map_eq_some_iff, afterPrefix?_eq_some_iff]
  constructor
  · rintro ⟨a, ha, rfl⟩
    rw [← List.reverse_reverse s, ha]
    simp
  · rintro rfl
    exact ⟨r.reverse, by simp, by simp⟩

end Text

end Detour
