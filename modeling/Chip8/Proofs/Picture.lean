/-
  File:      Chip8/Proofs/Picture.lean
  Subject:   A screen can be read back from its picture.

  Reading undoes what writing does, step by step:

  * `Text.lines?`: the lines of a text; `lines?_eq_some_iff` says of which lines it is made;
  * `Screen.pixel?`: the pixel that a character stands for;
  * `Screen.ofRows?`: the screen that has the given rows;
  * `Screen.read?`: the screen that a text shows; `read?_eq_some_iff`: a text is read exactly if
    it is the picture of a screen, and then as this screen.

  `Screen.picture_lossless` adds the shape of a picture: where in it each pixel stands.
-/
import Mathlib
import Chip8.Proofs.Sprite

namespace Chip8

/-! ## 1. Lines -/

namespace Text

/-- The text in which a line break follows each of the lines. -/
def ended (lines : List (List Char)) : List Char := lines.flatMap (· ++ ['\n'])

/-- The lines of a text. There are none if something follows the last line break. -/
def lines? : List Char → Option (List (List Char))
  | [] => some []
  | c :: cs =>
      if c = '\n' then (lines? cs).map ([] :: ·)
      else match lines? cs with
        | some (l :: ls) => some ((c :: l) :: ls)
        -- Without a line behind it the character is in a line that nothing ends.
        | _ => none

theorem ended_cons (l : List Char) (lines : List (List Char)) :
    ended (l :: lines) = l ++ '\n' :: ended lines := by
  rw [ended, List.flatMap_cons, List.append_assoc, List.singleton_append]
  rfl

theorem lines?_append {l : List Char} (h : '\n' ∉ l) (cs : List Char) :
    lines? (l ++ '\n' :: cs) = (lines? cs).map (l :: ·) := by
  induction l with
  | nil => rw [List.nil_append, lines?, if_pos rfl]
  | cons c l ih =>
    obtain ⟨hc, hl⟩ := List.ne_and_not_mem_of_not_mem_cons h
    rw [List.cons_append, lines?, if_neg hc.symm, ih hl]
    cases lines? cs <;> rfl

theorem lines?_ended {lines : List (List Char)} (h : ∀ l ∈ lines, '\n' ∉ l) :
    lines? (ended lines) = some lines := by
  induction lines with
  | nil => rfl
  | cons l ls ih =>
    obtain ⟨hl, hls⟩ := List.forall_mem_cons.mp h
    rw [ended_cons, lines?_append hl, ih hls, Option.map_some]

theorem eq_ended_of_lines? {cs : List Char} {lines : List (List Char)}
    (h : lines? cs = some lines) : cs = ended lines ∧ ∀ l ∈ lines, '\n' ∉ l := by
  -- The cases are the end, a line break, a character of a line, and one of a line without end.
  fun_induction lines? cs generalizing lines with
  | case1 =>
    cases h
    exact ⟨rfl, fun _ hl => nomatch hl⟩
  | case2 cs ih =>
    obtain ⟨ls, hls, rfl⟩ := Option.map_eq_some_iff.mp h
    obtain ⟨rfl, hunbroken⟩ := ih hls
    exact ⟨(ended_cons [] _).symm, List.forall_mem_cons.mpr ⟨List.not_mem_nil, hunbroken⟩⟩
  | case3 c cs hc l ls hcs ih =>
    cases h
    obtain ⟨rfl, hunbroken⟩ := ih hcs
    obtain ⟨hl, hls⟩ := List.forall_mem_cons.mp hunbroken
    rw [ended_cons, ended_cons, List.cons_append]
    have hcl : '\n' ∉ c :: l := List.not_mem_cons_of_ne_of_not_mem (Ne.symm hc) hl
    exact ⟨rfl, List.forall_mem_cons.mpr ⟨hcl, hls⟩⟩
  | case4 => cases h

/-- **A text is made of lines exactly if a line break follows each of them** and none is inside
    of one. -/
theorem lines?_eq_some_iff {cs : List Char} {lines : List (List Char)} :
    lines? cs = some lines ↔ cs = ended lines ∧ ∀ l ∈ lines, '\n' ∉ l :=
  ⟨eq_ended_of_lines?, fun ⟨e, h⟩ => e ▸ lines?_ended h⟩

/-- If all lines are of length `n`, line `k` with its break starts at `(n + 1) * k`. -/
theorem getElem?_ended {lines : List (List Char)} {n : Nat} (h : ∀ l ∈ lines, l.length = n)
    (k : Nat) {j : Nat} (hj : j ≤ n) :
    (ended lines)[(n + 1) * k + j]? = lines[k]?.bind fun l => (l ++ ['\n'])[j]? := by
  induction lines generalizing k with
  | nil => rfl
  | cons l ls ih =>
    obtain ⟨hl, hls⟩ := List.forall_mem_cons.mp h
    have hlength : (l ++ ['\n']).length = n + 1 := by rw [List.length_append, hl]; rfl
    rw [ended, List.flatMap_cons]
    cases k with
    | zero =>
      rw [Nat.mul_zero, Nat.zero_add, List.getElem?_append_left (by omega)]
      rfl
    | succ k =>
      rw [List.getElem?_append_right (by rw [hlength, Nat.mul_succ]; omega), hlength,
        show (n + 1) * (k + 1) + j - (n + 1) = (n + 1) * k + j by rw [Nat.mul_succ]; omega]
      exact ih hls k

theorem length_ended {lines : List (List Char)} {n : Nat} (h : ∀ l ∈ lines, l.length = n) :
    (ended lines).length = (n + 1) * lines.length := by
  induction lines with
  | nil => rfl
  | cons l ls ih =>
    obtain ⟨hl, hls⟩ := List.forall_mem_cons.mp h
    rw [ended_cons, List.length_append, List.length_cons, ih hls, hl, List.length_cons,
      Nat.mul_succ]
    omega

end Text

namespace Screen

/-! ## 2. Reading -/

/-- The character that a pixel is written as. -/
def mark (on : Bool) : Char := if on then '@' else ' '

/-- The pixel that a character stands for. -/
def pixel? (c : Char) : Option Bool :=
  if c = '@' then some true else if c = ' ' then some false else none

/-- The screen that has the given rows, if they are as many and as long as those of a screen. -/
def ofRows? (rows : List (List Bool)) : Option Screen :=
  if rows.length = screenHeight ∧ ∀ r ∈ rows, r.length = screenWidth then
    some (.ofFn fun p => (rows.getD p.y []).getD p.x false)
  else none

/-- The screen that a text shows. -/
def read? (text : String) : Option Screen := do
  let lines ← Text.lines? text.toList
  let rows ← lines.mapM (·.mapM pixel?)
  ofRows? rows

theorem pixel?_eq_some_iff (c : Char) (on : Bool) : pixel? c = some on ↔ c = mark on := by
  constructor
  · intro h
    unfold pixel? at h
    split_ifs at h with hon hoff
    · cases h
      exact hon
    · cases h
      exact hoff
  · rintro rfl
    cases on <;> rfl

/-- A list is read item by item if each item is. -/
theorem mapM_eq_some_iff {α β : Type} {read : α → Option β} {write : β → α}
    (h : ∀ a b, read a = some b ↔ a = write b) (l : List α) (l' : List β) :
    l.mapM read = some l' ↔ l = l'.map write := by
  induction l generalizing l' with
  | nil => cases l' <;> simp
  | cons a l ih =>
    rw [List.mapM_cons]
    simp only [Option.bind_eq_bind, Option.bind_eq_some_iff, h, ih]
    cases l' <;> simp [eq_comm]

theorem length_rows (s : Screen) : s.rows.length = screenHeight := by
  rw [rows, List.length_map, List.length_finRange]

theorem length_row (s : Screen) (y : Fin screenHeight) : (s.row y).length = screenWidth := by
  rw [row, List.length_map, List.length_finRange]

theorem length_of_mem_rows {s : Screen} {r : List Bool} (h : r ∈ s.rows) :
    r.length = screenWidth := by
  obtain ⟨y, -, rfl⟩ := List.mem_map.mp h
  exact length_row s y

theorem getElem?_rows (s : Screen) (y : Fin screenHeight) : s.rows[y.val]? = some (s.row y) := by
  simp [rows]

theorem getElem?_row (s : Screen) (p : Position) : (s.row p.y)[p.x.val]? = some (s.lit p) := by
  simp [row]

theorem rows_ofFn_getD {rows : List (List Bool)} (hheight : rows.length = screenHeight)
    (hwidth : ∀ r ∈ rows, r.length = screenWidth) :
    (ofFn fun p => (rows.getD p.y []).getD p.x false).rows = rows := by
  refine List.ext_getElem (by rw [length_rows, hheight]) fun y hy hy' => ?_
  have hrow := hwidth _ (List.getElem_mem hy')
  refine List.ext_getElem ?_ fun x hx hx' => ?_
  · rw [length_of_mem_rows (List.getElem_mem hy), hrow]
  · simp only [Screen.rows, row, List.getElem_map, List.getElem_finRange, lit_ofFn]
    simp [List.getD_eq_getElem?_getD, hy', hx']

/-- The rows that are taken for a screen are its own. -/
theorem ofRows?_eq_some_iff (rows : List (List Bool)) (s : Screen) :
    ofRows? rows = some s ↔ rows = s.rows := by
  constructor
  · intro h
    obtain ⟨hsize, hs⟩ := Option.ite_none_right_eq_some.mp h
    rw [← Option.some.inj hs, rows_ofFn_getD hsize.1 hsize.2]
  · rintro rfl
    rw [ofRows?, if_pos ⟨length_rows s, fun _ => length_of_mem_rows⟩]
    refine congrArg some (ext_lit fun p => ?_)
    rw [lit_ofFn, List.getD_eq_getElem?_getD, List.getD_eq_getElem?_getD, getElem?_rows,
      Option.getD_some, getElem?_row, Option.getD_some]

/-! ## 3. Pictures -/

/-- The lines of a screen's picture. -/
def lines (s : Screen) : List (List Char) := s.rows.map (·.map mark)

theorem length_of_mem_lines {s : Screen} {l : List Char} (h : l ∈ s.lines) :
    l.length = screenWidth := by
  obtain ⟨r, hr, rfl⟩ := List.mem_map.mp h
  rw [List.length_map, length_of_mem_rows hr]

theorem getElem?_lines (s : Screen) (y : Fin screenHeight) :
    s.lines[y.val]? = some ((s.row y).map mark) := by
  rw [lines, List.getElem?_map, getElem?_rows, Option.map_some]

theorem toList_picture (s : Screen) : s.picture.toList = Text.ended s.lines := by
  rw [picture, String.toList_ofList, Text.ended, lines, List.flatMap_map]
  rfl

theorem eq_of_mem_picture {s : Screen} {c : Char} (h : c ∈ s.picture.toList) :
    c = '\n' ∨ ∃ on, c = mark on := by
  rw [toList_picture] at h
  obtain ⟨l, hl, hc⟩ := List.mem_flatMap.mp h
  obtain ⟨r, -, rfl⟩ := List.mem_map.mp hl
  rcases List.mem_append.mp hc with hc | hc
  · obtain ⟨on, -, rfl⟩ := List.mem_map.mp hc
    exact .inr ⟨on, rfl⟩
  · exact .inl (List.mem_singleton.mp hc)

theorem lines?_picture (s : Screen) : Text.lines? s.picture.toList = some s.lines := by
  refine Text.lines?_eq_some_iff.mpr ⟨toList_picture s, fun l hl hbreak => ?_⟩
  obtain ⟨r, -, rfl⟩ := List.mem_map.mp hl
  obtain ⟨on, -, he⟩ := List.mem_map.mp hbreak
  cases on <;> cases he

theorem length_picture (s : Screen) : s.picture.length = (screenWidth + 1) * screenHeight := by
  rw [← String.length_toList, toList_picture, Text.length_ended fun _ => length_of_mem_lines, lines,
    List.length_map, length_rows]

theorem getElem?_picture (s : Screen) (p : Position) :
    s.picture.toList[(screenWidth + 1) * p.y.val + p.x.val]? = some (mark (s.lit p)) := by
  have hx := p.x.isLt
  have hrow : p.x.val < ((s.row p.y).map mark).length := by rwa [List.length_map, length_row]
  rw [toList_picture, Text.getElem?_ended (fun _ => length_of_mem_lines) p.y hx.le, getElem?_lines,
    Option.bind_some, List.getElem?_append_left hrow, List.getElem?_map, getElem?_row,
    Option.map_some]

/-- Every character of a picture is one byte. -/
theorem toByteArray_picture (s : Screen) :
    s.picture.toByteArray = (s.picture.toList.map (·.val.toUInt8)).toByteArray := by
  have hbyte : ∀ c ∈ s.picture.toList, String.utf8EncodeChar c = [c.val.toUInt8] := by
    intro c hc
    refine String.utf8EncodeChar_eq_singleton ?_
    rcases eq_of_mem_picture hc with rfl | ⟨on, rfl⟩
    · rfl
    · cases on <;> rfl
  calc s.picture.toByteArray
    _ = s.picture.toList.utf8Encode := by rw [← String.toByteArray_ofList, String.ofList_toList]
    _ = (s.picture.toList.map (·.val.toUInt8)).toByteArray := by
        rw [List.utf8Encode, List.map_eq_flatMap]
        exact congrArg List.toByteArray (List.flatMap_congr hbyte)

/-- **A text is read as a screen exactly if it is the picture of this screen.** -/
theorem read?_eq_some_iff (text : String) (s : Screen) :
    read? text = some s ↔ text = s.picture := by
  have hrows : ∀ (ls : List (List Char)) (rows : List (List Bool)),
      ls.mapM (·.mapM pixel?) = some rows ↔ ls = rows.map (·.map mark) :=
    mapM_eq_some_iff (mapM_eq_some_iff pixel?_eq_some_iff)
  calc read? text = some s
    _ ↔ Text.lines? text.toList = some s.lines := by
        simp only [read?, Option.bind_eq_bind, Option.bind_eq_some_iff, hrows,
          ofRows?_eq_some_iff, lines]
        constructor
        · rintro ⟨_, h, _, rfl, rfl⟩
          exact h
        · exact fun h => ⟨_, h, _, rfl, rfl⟩
    _ ↔ text.toList = s.picture.toList := by
        constructor
        · exact fun h => (Text.eq_ended_of_lines? h).1.trans (toList_picture s).symm
        · exact fun h => h ▸ lines?_picture s
    _ ↔ text = s.picture := String.toList_inj

/-- Two screens have the same picture only if they are the same. -/
theorem picture_inj {s t : Screen} : s.picture = t.picture ↔ s = t := by
  constructor
  · intro h
    have hread := (read?_eq_some_iff s.picture s).mpr rfl
    rw [(read?_eq_some_iff s.picture t).mpr h] at hread
    exact (Option.some.inj hread).symm
  · rintro rfl
    rfl

/-- **A picture shows a screen without loss.** It is made of 32 lines of 64 characters, each of
    them followed by a line break. Pixel (x, y) stands at the offset 65 y + x, which is the same in
    characters and in bytes. From its picture, and from no other text, the screen is read back, so
    no other screen has the same picture. -/
theorem picture_lossless (s : Screen) :
    (∃ lines, Text.lines? s.picture.toList = some lines ∧ lines.length = 32 ∧
      ∀ l ∈ lines, l.length = 64) ∧
    s.picture.length = 2080 ∧
    (∀ (x : Fin 64) (y : Fin 32),
      s.picture.toList[65 * y.val + x.val]? = some (if s.lit ⟨x, y⟩ then '@' else ' ')) ∧
    s.picture.toByteArray = (s.picture.toList.map (·.val.toUInt8)).toByteArray ∧
    (∀ text, read? text = some s ↔ text = s.picture) ∧
    ∀ t : Screen, s.picture = t.picture ↔ s = t := by
  refine ⟨⟨s.lines, lines?_picture s, ?_, fun _ => length_of_mem_lines⟩, length_picture s,
    fun x y => getElem?_picture s ⟨x, y⟩, toByteArray_picture s,
    fun text => read?_eq_some_iff text s, fun _ => picture_inj⟩
  rw [lines, List.length_map, length_rows]

/-- Only the pixel in the top right corner is lit. -/
def corner : Screen := blank.put ⟨63, 0⟩ true

/-- The corner stands at the end of the first line and not at the start of the last one, and only
    the whole picture is read back. -/
theorem picture_lossless_corner :
    corner.picture.toList[63]? = some '@' ∧ corner.picture.toList[2015]? = some ' ' ∧
    read? corner.picture = some corner ∧ read? "@" ≠ some corner ∧
    corner.picture ≠ blank.picture := by
  obtain ⟨-, hlength, hpixel, -, hread, hinj⟩ := picture_lossless corner
  have hlit : ∀ p, corner.lit p = if p = ⟨63, 0⟩ then true else blank.lit p :=
    fun p => lit_put blank ⟨63, 0⟩ p true
  refine ⟨?_, ?_, ?_, ?_, ?_⟩
  · simpa [hlit] using hpixel 63 0
  · simpa [hlit, lit_blank] using hpixel 0 31
  · exact (hread _).mpr rfl
  · rw [Ne, hread]
    intro h
    rw [← h] at hlength
    revert hlength
    decide
  · rw [Ne, hinj]
    intro h
    have hcorner := hlit ⟨63, 0⟩
    rw [h, lit_blank, if_pos rfl] at hcorner
    cases hcorner

end Screen

end Chip8
