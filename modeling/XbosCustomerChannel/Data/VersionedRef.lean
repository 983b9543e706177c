import XbosCustomerChannel.Data.PyIntSpelling

/-!
# References with a version

A reference that is issued anew from time to time is a stem, a separator and a number. The last
separator of a text ends its stem, so a reference is read back as it was written, and two are equal
only if their stems and their numbers are.
-/

namespace Data

namespace Text

/-- `text.rsplit(sep, 1)`: what is before the last separator and after it; `none` if there is no
separator. -/
def rsplit (sep : List Char) : List Char → Option (List Char × List Char)
  | [] => none
  | c :: cs =>
      match rsplit sep cs with
      | some (before, after) => some (c :: before, after)
      | none => (sep.isPrefixOf? (c :: cs)).map fun after => ([], after)

variable {c : Char} {sep : List Char}

theorem rsplit_of_notMem {cs : List Char} (h : c ∉ cs) : rsplit (c :: sep) cs = none := by
  induction cs with
  | nil => rfl
  | cons d cs ih =>
      have hne : c ≠ d := fun heq => h (heq ▸ List.mem_cons_self)
      simp [rsplit, ih fun hc => h (List.mem_cons_of_mem d hc), List.isPrefixOf?, hne]

/-- The separator is the last one if it does not start again in itself or in what follows. -/
theorem rsplit_append {word : List Char} (h : c ∉ sep ++ word) (cs : List Char) :
    rsplit (c :: sep) (cs ++ c :: (sep ++ word)) = some (cs, word) := by
  induction cs with
  | nil =>
      have hpfx : ∀ ds : List Char, ds.isPrefixOf? (ds ++ word) = some word := by
        intro ds
        induction ds with
        | nil => rfl
        | cons d ds ih => simp [List.isPrefixOf?, ih]
      simp [rsplit, rsplit_of_notMem h, List.isPrefixOf?, hpfx]
  | cons d cs ih => simp [rsplit, ih]

end Text

/-- A stem and a number. -/
structure VersionedRef where
  stem : List Char
  version : Int
  deriving DecidableEq

namespace VersionedRef

/-- `":v"`. -/
def separator : List Char := [':', 'v']

def chars (r : VersionedRef) : List Char := r.stem ++ separator ++ r.version.repr.toList

def text (r : VersionedRef) : String := String.ofList r.chars

/-- The same reference, of the next version. -/
def next (r : VersionedRef) : VersionedRef := { r with version := r.version + 1 }

/-- The reference as it is after some more versions. -/
def advance (r : VersionedRef) (n : Nat) : VersionedRef := { r with version := r.version + n }

@[simp] theorem advance_zero (r : VersionedRef) : r.advance 0 = r := by
  simp [advance]

theorem next_advance (r : VersionedRef) (n : Nat) : r.next.advance n = r.advance (n + 1) := by
  simp only [next, advance, VersionedRef.mk.injEq, true_and]
  omega

theorem advance_eq_self {r : VersionedRef} {n : Nat} : r.advance n = r ↔ n = 0 := by
  constructor
  · intro h
    have hversion := congrArg VersionedRef.version h
    simp only [advance] at hversion
    omega
  · rintro rfl
    exact r.advance_zero

theorem colon_notMem (n : Int) : ':' ∉ n.repr.toList := by
  intro h
  rcases PyInt.isDigit_or_minus h with hdigit | hminus
  · cases hdigit
  · cases hminus

/-- A text that was written is taken apart where it was put together. -/
theorem rsplit_chars (r : VersionedRef) :
    Text.rsplit separator r.chars = some (r.stem, r.version.repr.toList) := by
  have hcolon : ':' ∉ ['v'] ++ r.version.repr.toList := by
    simpa using colon_notMem r.version
  have h := Text.rsplit_append hcolon r.stem
  simpa [chars, separator] using h

@[simp] theorem text_toList (r : VersionedRef) : r.text.toList = r.chars := String.toList_ofList

theorem text_injective {r r' : VersionedRef} (h : r.text = r'.text) : r = r' := by
  have hchars : r.chars = r'.chars := by
    simpa using congrArg String.toList h
  have hparts := r.rsplit_chars
  rw [hchars, rsplit_chars, Option.some.injEq, Prod.mk.injEq] at hparts
  obtain ⟨hstem, hversion⟩ := hparts
  obtain ⟨stem, version⟩ := r
  obtain ⟨stem', version'⟩ := r'
  obtain rfl : stem' = stem := hstem
  obtain rfl := PyInt.repr_injective (String.toList_injective hversion)
  rfl

end VersionedRef

end Data
