/-!
# Python's text and sorting helpers

The few string operations the program relies on, over the characters of the
string: `str.strip`, `int(text)`, lowercase hexadecimal digests, and `sorted`
as an insertion sort, which is stable and evaluates in the kernel.
-/

namespace PyLib

/-- `c.isspace()`. -/
def isSpace (c : Char) : Bool :=
  let n := c.toNat
  (9 ≤ n && n ≤ 13) || (28 ≤ n && n ≤ 32) || n == 0x85 || n == 0xa0 || n == 0x1680
    || (0x2000 ≤ n && n ≤ 0x200a) || n == 0x2028 || n == 0x2029 || n == 0x202f || n == 0x205f
    || n == 0x3000

/-- `s == s.strip()`. -/
def isStripped (s : String) : Bool :=
  match s.toList with
  | [] => true
  | c :: cs => !isSpace c && !isSpace ((c :: cs).getLast (List.cons_ne_nil c cs))

/-- `s and s == s.strip()`. -/
def isNormalized (s : String) : Bool := s ≠ "" && isStripped s

/-- The text is 64 lowercase hexadecimal digits. -/
def isSha256Hex (s : String) : Bool :=
  s.toList.length == 64 && s.toList.all fun c => c.isDigit || ('a' ≤ c && c ≤ 'f')

/-- `cs.lstrip()`. -/
def lstripSpaces : List Char → List Char
  | [] => []
  | c :: cs => if isSpace c then lstripSpaces cs else c :: cs

/-- `s.strip()`. -/
def strip (s : String) : String :=
  String.ofList (lstripSpaces (lstripSpaces s.toList).reverse).reverse

/-- `cs.rstrip(ch)` for one character. -/
def rstripChar (ch : Char) (cs : List Char) : List Char :=
  (cs.reverse.dropWhile fun c => c == ch).reverse

/-- Decimal digits with single underscores between them; the flag says that
the last character was a digit. -/
def natOfDigits : List Char → Nat → Bool → Option Nat
  | [], n, afterDigit => if afterDigit then some n else none
  | c :: cs, n, afterDigit =>
    if c.isDigit then natOfDigits cs (10 * n + (c.toNat - 48)) true
    else if c == '_' && afterDigit then natOfDigits cs n false
    else none

/-- The interpreter's bound on the digits of an integer literal. -/
def intMaxStrDigits : Nat := 4300

/-- `int(text)`. Digits outside ASCII are refused here; no caller accepts a
text that is not `str` of its own value. -/
def intOfText (s : String) : Option Int :=
  let cs := (lstripSpaces (lstripSpaces s.toList).reverse).reverse
  if (cs.filter Char.isDigit).length > intMaxStrDigits then none
  else match cs with
    | '-' :: cs => (natOfDigits cs 0 false).map fun n => -(n : Int)
    | '+' :: cs => (natOfDigits cs 0 false).map fun n => (n : Int)
    | cs => (natOfDigits cs 0 false).map fun n => (n : Int)

section Sorted

variable {α : Type} (le : α → α → Bool)

/-- Insert before the first element that is not below `x`. -/
def insertSorted (x : α) : List α → List α
  | [] => [x]
  | y :: ys => if le x y then x :: y :: ys else y :: insertSorted x ys

/-- `sorted(xs)`. -/
def sorted (xs : List α) : List α := xs.foldr (insertSorted le) []

theorem mem_insertSorted {x y : α} : ∀ {l : List α}, y ∈ insertSorted le x l ↔ y = x ∨ y ∈ l
  | [] => by simp [insertSorted]
  | z :: l => by
    rw [insertSorted]
    split
    next => exact List.mem_cons
    next =>
      rw [List.mem_cons, mem_insertSorted, List.mem_cons]
      constructor
      · rintro (h | h | h)
        · exact Or.inr (Or.inl h)
        · exact Or.inl h
        · exact Or.inr (Or.inr h)
      · rintro (h | h | h)
        · exact Or.inr (Or.inl h)
        · exact Or.inl h
        · exact Or.inr (Or.inr h)

/-- Sorting keeps the elements. -/
theorem mem_sorted {y : α} : ∀ {l : List α}, y ∈ sorted le l ↔ y ∈ l
  | [] => Iff.rfl
  | x :: l => by
    rw [sorted, List.foldr_cons, mem_insertSorted, List.mem_cons]
    exact or_congr_right (mem_sorted (l := l))

theorem insertSorted_perm (x : α) : ∀ l : List α, (insertSorted le x l).Perm (x :: l)
  | [] => List.Perm.refl _
  | y :: l => by
    rw [insertSorted]
    split
    next => exact List.Perm.refl _
    next => exact ((insertSorted_perm x l).cons y).trans (List.Perm.swap x y l)

/-- Sorting rearranges. -/
theorem sorted_perm : ∀ l : List α, (sorted le l).Perm l
  | [] => List.Perm.refl _
  | x :: l => (insertSorted_perm le x _).trans ((sorted_perm l).cons x)

/-- `len(set(xs)) == len(xs)` says that nothing occurs twice. -/
theorem nodup_of_length_eraseDups {β : Type} [BEq β] [LawfulBEq β] (xs : List β)
    (h : xs.eraseDups.length = xs.length) : xs.Nodup := by
  have hle : ∀ ys : List β, ys.eraseDups.length ≤ ys.length := by
    intro ys
    induction hn : ys.length using Nat.strongRecOn generalizing ys with
    | ind n ih =>
      cases ys with
      | nil => simp
      | cons y ys =>
        have hfilter := List.length_filter_le (fun b => !b == y) ys
        rw [List.length_cons] at hn
        rw [List.eraseDups_cons, List.length_cons]
        have hrest := ih _ (by omega) (ys.filter fun b => !b == y) rfl
        omega
  induction xs with
  | nil => exact List.nodup_nil
  | cons x xs ih =>
    rw [List.eraseDups_cons, List.length_cons, List.length_cons] at h
    have hrest := hle (xs.filter fun b => !b == x)
    have hfilter := List.length_filter_le (fun b => !b == x) xs
    -- nothing was dropped for being the first element again
    have hkept : (xs.filter fun b => !b == x) = xs :=
      List.Sublist.eq_of_length List.filter_sublist (by omega)
    rw [hkept] at h
    refine List.nodup_cons.mpr ⟨?_, ih (by omega)⟩
    intro hx
    have hne := List.filter_eq_self.mp hkept x hx
    simp at hne

end Sorted

/-- `sorted(names)`. -/
def sortedNames (names : List String) : List String := sorted (fun a b => decide (a ≤ b)) names

/-- `sorted(pairs)` of pairs with distinct names. -/
def sortedPairs {α : Type} (pairs : List (String × α)) : List (String × α) :=
  sorted (fun a b => decide (a.1 ≤ b.1)) pairs

theorem sortedPairs_perm {β : Type} (l : List (String × β)) : (sortedPairs l).Perm l :=
  sorted_perm _ l

/-- Sorting pairs by their names sorts the names. -/
theorem map_fst_insertSorted {β : Type} (p : String × β) : ∀ l : List (String × β),
    (insertSorted (fun a b => decide (a.1 ≤ b.1)) p l).map Prod.fst
      = insertSorted (fun a b => decide (a ≤ b)) p.1 (l.map Prod.fst)
  | [] => rfl
  | q :: l => by
    rw [insertSorted, List.map_cons, insertSorted]
    split
    next => rfl
    next => rw [List.map_cons, map_fst_insertSorted p l]

theorem map_fst_sortedPairs {β : Type} : ∀ l : List (String × β),
    (sortedPairs l).map Prod.fst = sortedNames (l.map Prod.fst)
  | [] => rfl
  | p :: l => by
    have ih := map_fst_sortedPairs l
    rw [sortedPairs, sortedNames] at ih ⊢
    rw [sorted, List.foldr_cons, map_fst_insertSorted, List.map_cons, sorted, List.foldr_cons]
    exact congrArg _ ih

/-- `len(names) == len(set(names))` of distinct names. -/
theorem eraseDups_of_nodup {α : Type} [BEq α] [LawfulBEq α] : ∀ {l : List α}, l.Nodup →
    l.eraseDups = l
  | [], _ => rfl
  | x :: l, h => by
    obtain ⟨hx, hl⟩ := List.nodup_cons.mp h
    have hothers : l.filter (fun y => !y == x) = l := by
      apply List.filter_eq_self.mpr
      intro y hy
      have hne : y ≠ x := by
        rintro rfl
        exact hx hy
      simpa using hne
    rw [List.eraseDups_cons, hothers, eraseDups_of_nodup hl]

/-- `set(xs)` holds each element once. -/
theorem nodup_eraseDups {α : Type} [BEq α] [LawfulBEq α] : ∀ l : List α, l.eraseDups.Nodup
  | [] => by simp
  | a :: l => by
    rw [List.eraseDups_cons, List.nodup_cons]
    constructor
    · intro hmem
      have hkept := (List.mem_filter.mp (List.mem_eraseDups.mp hmem)).2
      simp at hkept
    · exact nodup_eraseDups (l.filter fun b => !b == a)
  termination_by l => l.length
  decreasing_by
    rw [List.length_cons]
    exact Nat.lt_succ_of_le (List.length_filter_le _ _)

end PyLib
