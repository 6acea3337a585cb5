/-!
Paths as text. Between slashes stand the names of a path; repeated slashes, single dots inside the
path and slashes at its end say nothing, while two dots are a name like any other.
-/

namespace DaemonLaunch.Path

private def leadLength : List Char → Nat
  | '/' :: _ => 1
  | ['.'] => 1
  | '.' :: '/' :: _ => 1
  | _ => 0

private def dropIdle : Nat → List Char → List Char
  -- the path is given in reverse, and `fuel` bounds the count of its names
  | 0, reversed => reversed
  | fuel + 1, reversed =>
    let name := reversed.takeWhile (· != '/')
    if reversed.isEmpty || !(name.isEmpty || name == ['.']) then reversed
    else dropIdle fuel (reversed.dropWhile (· != '/')).tail

private def body (path : List Char) : List Char :=
  let reversed := (path.drop (leadLength path)).reverse
  dropIdle (reversed.length + 1) reversed

/-- The last name of a path, unless it is the root or ends in two dots. -/
def fileName? (path : String) : Option (List Char) :=
  let name := ((body path.toList).takeWhile (· != '/')).reverse
  if name.isEmpty || name == ['.', '.'] then none else some name

/-- What follows the last dot of the last name, if something stands before the dot. -/
def extension (path : String) : String :=
  match fileName? path with
  | none => ""
  | some name =>
    let reversed := name.reverse
    if reversed.contains '.' && !((reversed.dropWhile (· != '.')).tail).isEmpty then
      String.ofList (reversed.takeWhile (· != '.')).reverse
    else ""

/-- The path without its last name; the root and the empty path have none. -/
def parent? (path : String) : Option String :=
  let chars := path.toList
  let lead := chars.take (leadLength chars)
  let reversed := body chars
  if reversed.isEmpty then if lead == ['.'] then some "" else none
  else
    let above := (reversed.dropWhile (· != '/')).tail
    some (String.ofList (lead ++ (dropIdle (above.length + 1) above).reverse))

/-- The directory that holds the file of a path; the current one if the path names none. -/
def directory (path : String) : String :=
  match parent? path with
  | none | some "" => "."
  | some directory => directory

/-- The names between the slashes of a path, in order. -/
def parts (path : List Char) : List (List Char) :=
  (path.splitOn '/').filter fun name => !name.isEmpty

theorem parts_slash (left right : List Char) :
    parts (left ++ '/' :: right) = parts left ++ parts right := by
  simp [parts, List.splitOn_append_cons_self]

@[simp] theorem parts_nil : parts [] = [] := by simp [parts]

@[simp] theorem parts_cons_slash (path : List Char) : parts ('/' :: path) = parts path := by
  simpa using parts_slash [] path

theorem parts_of_name {name : List Char} (hname : '/' ∉ name) :
    parts name = if name.isEmpty then [] else [name] := by
  rw [parts, List.splitOn_eq_singleton hname]
  cases name <;> simp

private theorem parts_reverse (reversed : List Char) :
    parts reversed.reverse = parts (reversed.dropWhile (· != '/')).tail.reverse ++
      parts (reversed.takeWhile (· != '/')).reverse := by
  conv => lhs; rw [← List.takeWhile_append_dropWhile (p := (· != '/')) (l := reversed)]
  cases hrest : reversed.dropWhile (· != '/') with
  | nil => simp
  | cons c rest =>
    have hc : c = '/' := by simpa [hrest] using List.head?_dropWhile_not (· != '/') reversed
    rw [hc, List.reverse_append, List.reverse_cons, List.append_assoc, List.singleton_append,
      parts_slash, List.tail_cons]

private theorem dropIdle_cases (fuel : Nat) (reversed : List Char) :
    dropIdle (fuel + 1) reversed = reversed ∧ (reversed = [] ∨
        reversed.takeWhile (· != '/') ≠ [] ∧ reversed.takeWhile (· != '/') ≠ ['.']) ∨
      reversed ≠ [] ∧ (reversed.takeWhile (· != '/') = [] ∨ reversed.takeWhile (· != '/') = ['.']) ∧
        dropIdle (fuel + 1) reversed = dropIdle fuel (reversed.dropWhile (· != '/')).tail := by
  rw [dropIdle]
  split
  · next hdone => exact .inl ⟨rfl, by simpa using hdone⟩
  · next hidle =>
    simp only [Bool.or_eq_true, Bool.not_eq_true', not_or, List.isEmpty_iff, Bool.not_eq_false,
      beq_iff_eq] at hidle
    exact .inr ⟨hidle.1, hidle.2, rfl⟩

private theorem dropIdle_suffix (fuel : Nat) (reversed : List Char) :
    dropIdle fuel reversed <:+ reversed := by
  induction fuel generalizing reversed with
  | zero => exact List.suffix_rfl
  | succ fuel ih =>
    obtain ⟨hdone, -⟩ | ⟨-, -, hdrop⟩ := dropIdle_cases fuel reversed
    · simp [hdone]
    · rw [hdrop]
      exact (ih _).trans ((List.tail_suffix _).trans (List.dropWhile_suffix _))

private theorem parts_dropIdle (fuel : Nat) (reversed : List Char) :
    ∃ count, parts reversed.reverse = parts (dropIdle fuel reversed).reverse ++
        List.replicate count ['.'] := by
  induction fuel generalizing reversed with
  | zero => exact ⟨0, by simp [dropIdle]⟩
  | succ fuel ih =>
    obtain ⟨hdone, -⟩ | ⟨-, hidle, hdrop⟩ := dropIdle_cases fuel reversed
    · exact ⟨0, by simp [hdone]⟩
    · obtain ⟨count, hcount⟩ := ih (reversed.dropWhile (· != '/')).tail
      rw [parts_reverse, hcount, hdrop]
      obtain hname | hname := hidle
      · exact ⟨count, by simp [hname]⟩
      · exact ⟨count + 1, by simp [hname, parts_of_name, List.replicate_succ']⟩

private theorem takeWhile_dropIdle {fuel : Nat} {reversed : List Char}
    (hfuel : reversed.length < fuel)
    (hleft : dropIdle fuel reversed ≠ []) : (dropIdle fuel reversed).takeWhile (· != '/') ≠ [] := by
  induction fuel generalizing reversed with
  | zero => omega
  | succ fuel ih =>
    -- each name that is dropped makes the path shorter, so the fuel does not run out before a name
    -- is found that says something
    obtain ⟨hdone, hname⟩ | ⟨hmore, -, hdrop⟩ := dropIdle_cases fuel reversed
    · rw [hdone] at hleft ⊢
      exact (hname.resolve_left hleft).1
    · rw [hdrop] at hleft ⊢
      refine ih ?_ hleft
      have hshort := (List.dropWhile_suffix (l := reversed) (· != '/')).length_le
      have hpos := List.length_pos_iff.mpr hmore
      rw [List.length_tail]
      omega

private theorem parts_lead {path kept : List Char} (hkept : kept <+: path.drop (leadLength path)) :
    parts (path.take (leadLength path) ++ kept) = parts (path.take (leadLength path)) ++
      parts kept := by
  unfold leadLength at *
  split at *
  · simp
  · simp_all
  · next rest =>
    cases kept with
    | nil => simp
    | cons c kept =>
      have hc : c = '/' := (List.cons_prefix_cons.mp hkept).1
      rw [hc, parts_slash, parts_cons_slash]
  · simp

private theorem eq_dot_of_mem_lead {path name : List Char}
    (hname : name ∈ parts (path.take (leadLength path))) :
    name = ['.'] := by
  unfold leadLength at hname
  split at hname
  · simp at hname
  · simpa [parts_of_name] using hname
  · simpa [parts_of_name] using hname
  · simp at hname

private theorem head?_lead {path kept : List Char} (hkept : kept <+: path.drop (leadLength path)) :
    (path.take (leadLength path) ++ kept).head? = some '/' ↔ path.head? = some '/' := by
  constructor
  · intro hhead
    have hprefix : path.take (leadLength path) ++ kept <+: path := by
      conv => rhs; rw [← List.take_append_drop (leadLength path) path]
      exact (List.prefix_append_right_inj _).mpr hkept
    obtain ⟨rest, hrest⟩ := hprefix
    rw [← hrest, List.head?_append, hhead]
    rfl
  · intro hhead
    obtain ⟨rest, rfl⟩ : ∃ rest, path = '/' :: rest := List.head?_eq_some_iff.mp hhead
    simp [leadLength]

private theorem body_suffix (path : List Char) :
    body path <:+ (path.drop (leadLength path)).reverse := dropIdle_suffix _ _

private theorem parts_eq_body (path : List Char) :
    ∃ count, parts path = parts (path.take (leadLength path)) ++ parts (body path).reverse ++
        List.replicate count ['.'] := by
  let reversed := (path.drop (leadLength path)).reverse
  obtain ⟨count, hcount⟩ := parts_dropIdle (reversed.length + 1) reversed
  refine ⟨count, ?_⟩
  rw [List.reverse_reverse] at hcount
  conv => lhs; rw [← List.take_append_drop (leadLength path) path, parts_lead List.prefix_rfl,
    hcount]
  rw [List.append_assoc]
  rfl

private theorem parts_body {path : List Char} (hbody : body path ≠ []) :
    parts (body path).reverse =
      parts ((body path).dropWhile (· != '/')).tail.reverse ++
        [((body path).takeWhile (· != '/')).reverse] := by
  have hname : (body path).takeWhile (· != '/') ≠ [] :=
    takeWhile_dropIdle (Nat.lt_succ_self _) hbody
  have hslash : '/' ∉ ((body path).takeWhile (· != '/')).reverse := by
    intro hmem
    simpa using List.all_eq_true.mp List.all_takeWhile '/' (List.mem_reverse.mp hmem)
  rw [parts_reverse, parts_of_name hslash, if_neg (by simpa using hname)]

/-- A path whose last name is no dot names its parent, perhaps dots, and the last name. -/
theorem parts_eq_parent {path : String} {last : List Char}
    (hlast : (parts path.toList).getLast? = some last) (hdot : last ≠ ['.']) :
    ∃ above count, parent? path = some above ∧
      parts path.toList = parts above.toList ++ List.replicate count ['.'] ++ [last] ∧
      (above.toList.head? = some '/' ↔ path.toList.head? = some '/') := by
  obtain ⟨after, hparts⟩ := parts_eq_body path.toList
  -- dots after the body would be the last name
  have hafter : after = 0 := by
    cases after with
    | zero => rfl
    | succ after =>
      rw [hparts, List.replicate_succ', ← List.append_assoc, List.getLast?_concat,
        Option.some.injEq] at hlast
      exact absurd hlast.symm hdot
  rw [hafter, List.replicate_zero, List.append_nil] at hparts
  have hbody : body path.toList ≠ [] := by
    intro hempty
    rw [hparts, hempty, List.reverse_nil, parts_nil, List.append_nil] at hlast
    exact hdot (eq_dot_of_mem_lead (List.mem_of_getLast? hlast))
  rw [parts_body hbody, ← List.append_assoc] at hparts
  obtain rfl : ((body path.toList).takeWhile (· != '/')).reverse = last := by
    simpa [hparts] using hlast
  -- the parent is what stands above the last name, without dots at its end
  let above := ((body path.toList).dropWhile (· != '/')).tail
  have hkept : (dropIdle (above.length + 1) above).reverse <+: path.toList.drop
      (leadLength path.toList) := by
    rw [← List.reverse_suffix, List.reverse_reverse]
    exact (dropIdle_suffix _ _).trans
      (((List.tail_suffix _).trans (List.dropWhile_suffix _)).trans (body_suffix _))
  obtain ⟨count, hcount⟩ := parts_dropIdle (above.length + 1) above
  refine ⟨String.ofList (path.toList.take (leadLength path.toList) ++
    (dropIdle (above.length + 1) above).reverse), count,
    ?_, ?_, ?_⟩
  · simp only [parent?, List.isEmpty_iff, hbody, if_false]
    rfl
  · rw [hparts, String.toList_ofList, parts_lead hkept, hcount]
    simp only [List.append_assoc]
  · rw [String.toList_ofList]
    exact head?_lead hkept

end DaemonLaunch.Path
