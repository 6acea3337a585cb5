/-!
White space of every script, the trimming of it, and the words between it.
-/

namespace DaemonLaunch.Text

/-- The characters with the white space property. -/
def isBlank (c : Char) : Bool :=
  let code := c.toNat
  (0x9 ≤ code && code ≤ 0xd) || code == 0x20 || code == 0x85 || code == 0xa0 || code == 0x1680 ||
    (0x2000 ≤ code && code ≤ 0x200a) || code == 0x2028 || code == 0x2029 || code == 0x202f ||
    code == 0x205f || code == 0x3000

theorem isBlank_of_visible {c : Char} (hmost : 0x20 < c.toNat) (hleast : c.toNat < 0x7f) :
    isBlank c = false := by
  simp only [isBlank, Bool.or_eq_false_iff, Bool.and_eq_false_iff, decide_eq_false_iff_not,
    beq_eq_false_iff_ne]
  omega

/-- The text without the blanks at its two ends. -/
def trim (text : List Char) : List Char :=
  ((text.dropWhile isBlank).reverse.dropWhile isBlank).reverse

/-- The longest runs of characters that are not blank, in order. -/
def words (text : List Char) : List (List Char) :=
  (text.splitOnP isBlank).filter fun word => !word.isEmpty

theorem words_append_cons {c : Char} (hblank : isBlank c = true) (before after : List Char) :
    words (before ++ c :: after) = words before ++ words after := by
  rw [words, words, words, List.splitOnP_append_cons before after hblank, List.filter_append]

theorem words_cons {c : Char} (hblank : isBlank c = true) (after : List Char) :
    words (c :: after) = words after :=
  words_append_cons hblank [] after

theorem words_eq_singleton {word : List Char} (hword : word ≠ [])
    (hblank : ∀ c ∈ word, isBlank c = false) :
    words word = [word] := by
  rw [words, List.splitOnP_eq_singleton hblank]
  simp [hword]

theorem words_blanks_append {blanks : List Char} (hblanks : ∀ c ∈ blanks, isBlank c = true)
    (after : List Char) :
    words (blanks ++ after) = words after := by
  induction blanks with
  | nil => rfl
  | cons c blanks ih =>
    obtain ⟨hblank, hblanks⟩ := List.forall_mem_cons.mp hblanks
    rw [List.cons_append, words_cons hblank, ih hblanks]

theorem words_blanks {blanks : List Char} (hblanks : ∀ c ∈ blanks, isBlank c = true) :
    words blanks = [] := by
  have hwords := words_blanks_append hblanks []
  rw [List.append_nil] at hwords
  exact hwords

theorem words_append {word rest : List Char} (hword : word ≠ [])
    (hblank : ∀ c ∈ word, isBlank c = false)
    (hends : ∀ c ∈ rest.head?, isBlank c = true) : words (word ++ rest) = word :: words rest := by
  cases rest with
  | nil => rw [List.append_nil, words_eq_singleton hword hblank, words_blanks (by simp)]
  | cons c after =>
    have hparts : isBlank c = true := hends c (by simp)
    rw [words_append_cons hparts, words_eq_singleton hword hblank, words_cons hparts,
      List.singleton_append]

end DaemonLaunch.Text
