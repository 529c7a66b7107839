import Mathlib.Data.List.Infix

/-!
# Texts

Words inside texts that are joined by a separator, numbers as texts, texts that are read back,
and the components of a path.
-/

namespace Text

variable {α : Type*}

/-! ### Words inside joined texts -/

/-- A word without the separator lies on one side of it. -/
lemma infix_separated_iff {w a b : List α} {c : α} (hc : c ∉ w) :
    w <:+: a ++ c :: b ↔ w <:+: a ∨ w <:+: b := by
  rw [List.infix_append_iff_ne_nil, List.infix_cons_iff]
  constructor
  · rintro (ha | (hstart | hb) | ⟨l₁, l₂, -, hl₂, rfl, -, hstart⟩)
    · exact .inl ha
    · rcases List.prefix_cons_iff.mp hstart with rfl | ⟨l, rfl, -⟩
      · exact .inl (List.nil_infix)
      · exact absurd List.mem_cons_self hc
    · exact .inr hb
    · rcases List.prefix_cons_iff.mp hstart with rfl | ⟨l, rfl, -⟩
      · exact absurd rfl hl₂
      · exact absurd (List.mem_append_right _ List.mem_cons_self) hc
  · rintro (ha | hb)
    · exact .inl ha
    · exact .inr (.inl (.inr hb))

/-- The same for a separator of several characters, none of them in the word. -/
lemma infix_joined_iff {w sep b : List α} (hw : w ≠ []) (hne : sep ≠ [])
    (hsep : ∀ c ∈ sep, c ∉ w) (a : List α) :
    w <:+: a ++ (sep ++ b) ↔ w <:+: a ∨ w <:+: b := by
  induction sep generalizing a with
  | nil => exact absurd rfl hne
  | cons c sep ih =>
    rw [List.cons_append, infix_separated_iff (hsep c List.mem_cons_self)]
    cases sep with
    | nil => rfl
    | cons c' sep =>
      have htail := ih (by simp) (fun c hc => hsep c (List.mem_cons_of_mem _ hc)) []
      rw [List.nil_append, List.infix_nil, or_iff_right hw] at htail
      rw [htail]

/-- A word without characters of the separator lies in a joined text exactly if it lies in one
of its parts. -/
lemma infix_intercalate_iff {w sep : List α} (hw : w ≠ []) (hne : sep ≠ [])
    (hsep : ∀ c ∈ sep, c ∉ w) (texts : List (List α)) :
    w <:+: sep.intercalate texts ↔ ∃ t ∈ texts, w <:+: t := by
  induction texts with
  | nil => simp [hw]
  | cons t texts ih =>
    cases texts with
    | nil => simp
    | cons t' texts =>
      rw [List.intercalate_cons_cons, List.append_assoc, infix_joined_iff hw hne hsep, ih]
      simp only [List.mem_cons, exists_eq_or_imp]

/-! ### Numbers -/

lemma toString_injective {m n : Nat} (h : toString m = toString n) : m = n := by
  have hdigits := congrArg String.toList h
  rw [Nat.toString_eq_ofList_toDigits, Nat.toString_eq_ofList_toDigits, String.toList_ofList,
    String.toList_ofList] at hdigits
  have hvalue := congrArg (Nat.ofDigitChars 10 · 0) hdigits
  simpa using hvalue

/-- A natural number is written with digits. -/
lemma not_mem_repr {c : Char} (hdigit : c.isDigit = false) (n : Nat) : c ∉ n.repr.toList := by
  rw [Nat.toList_repr]
  intro hc
  have hc := Nat.isDigit_of_mem_toDigits (by decide) (by decide) hc
  simp [hdigit] at hc

/-- A number is written with digits and a sign. -/
lemma not_mem_toString {c : Char} (hdigit : c.isDigit = false) (hsign : c ≠ '-') (i : Int) :
    c ∉ (toString i).toList := by
  rw [Int.toString_eq_repr, Int.repr_eq_if]
  split
  · simpa using not_mem_repr hdigit _
  · simpa [hsign] using not_mem_repr hdigit _

/-! ### Reading back -/

/-- The number that decimal digits, with or without a sign, stand for. -/
def readInt : List Char → Int
  | '-' :: digits => -(Nat.ofDigitChars 10 digits 0 : Nat)
  | digits        => (Nat.ofDigitChars 10 digits 0 : Nat)

lemma readInt_unsigned {digits : List Char} (h : '-' ∉ digits) :
    readInt digits = (Nat.ofDigitChars 10 digits 0 : Nat) := by
  rw [readInt]
  rintro later rfl
  exact h List.mem_cons_self

lemma readInt_toString (i : Int) : readInt (toString i).toList = i := by
  rw [Int.toString_eq_repr, Int.repr_eq_if]
  split
  case isTrue hi =>
    rw [readInt_unsigned (not_mem_repr rfl _), Nat.toList_repr, Nat.ofDigitChars_ten_toDigits]
    omega
  case isFalse hi =>
    have hdigits : ("-" ++ (-i).toNat.repr).toList = '-' :: Nat.toDigits 10 (-i).toNat := by simp
    rw [hdigits, readInt, Nat.ofDigitChars_ten_toDigits]
    omega

lemma toList_toString_ne_nil (i : Int) : (toString i).toList ≠ [] := by
  intro hnil
  have hi := readInt_toString i
  rw [hnil] at hi
  obtain rfl : 0 = i := hi
  exact absurd hnil (by decide)

/-- What stands before the first separator, and what after it. -/
def cut [DecidableEq α] (sep : α) (text : List α) : Option (List α × List α) :=
  match text.dropWhile (· ≠ sep) with
  | []         => none
  | _ :: after => some (text.takeWhile (· ≠ sep), after)

lemma cut_append [DecidableEq α] {sep : α} {before : List α} (h : sep ∉ before)
    (after : List α) : cut sep (before ++ sep :: after) = some (before, after) := by
  have hbefore : ∀ c ∈ before, (decide (c ≠ sep)) = true := by
    intro c hc
    exact decide_eq_true fun hsep => h (hsep ▸ hc)
  rw [cut, List.dropWhile_append_of_pos hbefore, List.takeWhile_append_of_pos hbefore]
  simp

/-! ### Paths -/

/-- The parts between separators, leaving out the empty ones. -/
def components [DecidableEq α] (sep : α) (path : List α) : List (List α) :=
  (path.splitOn sep).filter (!·.isEmpty)

section
variable [DecidableEq α] {sep : α}

@[simp] lemma components_nil : components sep [] = [] := rfl

lemma components_singleton {name : List α} (hname : name ≠ []) (hsep : sep ∉ name) :
    components sep name = [name] := by
  rw [components, List.splitOn_eq_singleton hsep]
  simp [hname]

/-- A separator joins the components before it and those after it. -/
lemma components_append (path rest : List α) :
    components sep (path ++ sep :: rest) = components sep path ++ components sep rest := by
  rw [components, List.splitOn_append_cons_self, List.filter_append]
  rfl

/-- Components joined by the separator are its components. -/
lemma components_intercalate {parts : List (List α)} (hne : ∀ part ∈ parts, part ≠ [])
    (hsep : ∀ part ∈ parts, sep ∉ part) : components sep ([sep].intercalate parts) = parts := by
  by_cases hparts : parts = []
  · subst hparts
    rfl
  · rw [components, List.splitOn_intercalate sep hsep hparts]
    simpa using hne

end

end Text
