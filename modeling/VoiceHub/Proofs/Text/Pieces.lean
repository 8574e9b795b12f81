import Mathlib.Data.List.DropRight

/-!
# Texts cut at a mark

A text is read in pieces, each up to a mark that does not occur in it.  From the
front a piece ends at the first mark, from the back it starts after the last one.

A newline ends a line and starts another, so a text that ends in a newline has an
empty line at its end.  Between two texts that are joined by a newline no line is
lost, whatever stands in them.
-/

namespace VoiceHub.Text

variable {p : Char → Bool} {piece rest : List Char} {stop : Char}

/-! ## From the front -/

theorem takeWhile_piece (h : ∀ x ∈ piece, p x = true) (hstop : ∀ x ∈ rest.head?, p x = false) :
    (piece ++ rest).takeWhile p = piece := by
  rw [List.takeWhile_append_of_pos h]
  cases rest with
  | nil => simp
  | cons x rest => simp [hstop x rfl]

theorem dropWhile_piece (h : ∀ x ∈ piece, p x = true) (hstop : ∀ x ∈ rest.head?, p x = false) :
    (piece ++ rest).dropWhile p = rest := by
  rw [List.dropWhile_append_of_pos h]
  cases rest with
  | nil => rfl
  | cons x rest => simp [hstop x rfl]

def upTo (stop : Char) (cs : List Char) : List Char := cs.takeWhile (· ≠ stop)

def after (stop : Char) (cs : List Char) : List Char := (cs.dropWhile (· ≠ stop)).tail

theorem upTo_append (h : stop ∉ piece) : upTo stop (piece ++ stop :: rest) = piece :=
  takeWhile_piece (fun x hx => by simpa using ne_of_mem_of_not_mem hx h) (by simp)

theorem after_append (h : stop ∉ piece) : after stop (piece ++ stop :: rest) = rest := by
  have hpiece : ∀ x ∈ piece, decide (x ≠ stop) = true :=
    fun x hx => by simpa using ne_of_mem_of_not_mem hx h
  rw [after, dropWhile_piece hpiece (by simp), List.tail_cons]

/-! ## From the back -/

theorem append_cons_inj {xs xs' ys ys' : List Char} (h : stop ∉ ys) (h' : stop ∉ ys')
    (heq : xs ++ stop :: ys = xs' ++ stop :: ys') : xs = xs' ∧ ys = ys' := by
  rcases List.append_eq_append_iff.mp heq with
    ⟨more, rfl, hmore⟩ | ⟨more, rfl, hmore⟩
  · cases more with
    | nil => simpa using hmore
    | cons first more =>
        rw [List.cons_append, List.cons.injEq] at hmore
        exact absurd (by simp [hmore.2]) h
  · cases more with
    | nil => simpa using hmore.symm
    | cons first more =>
        rw [List.cons_append, List.cons.injEq] at hmore
        exact absurd (by simp [hmore.2]) h'

/-! ## Lines -/

section Lines

def lines (text : String) : List String := (text.toList.splitOn '\n').map String.ofList

def IsLine (text : String) : Prop := '\n' ∉ text.toList

instance (text : String) : Decidable (IsLine text) :=
  inferInstanceAs (Decidable ('\n' ∉ text.toList))

/-- The lines up to the last one that is not empty. -/
def written (ls : List String) : List String := ls.rdropWhile (· = "")

def endsLine (text : String) : Bool := text.toList.getLast? = some '\n'

variable {text : String} {parts ls : List String}

@[simp] theorem isLine_append {a b : String} : IsLine (a ++ b) ↔ IsLine a ∧ IsLine b := by
  simp [IsLine]

/-! ## Cutting -/

theorem lines_of_isLine (h : IsLine text) : lines text = [text] := by
  simp [lines, List.splitOn_eq_singleton h]

theorem lines_append_newline (before after : String) :
    lines (before ++ "\n" ++ after) = lines before ++ lines after := by
  have hchars : (before ++ "\n" ++ after).toList = before.toList ++ '\n' :: after.toList := by
    simp
  rw [lines, hchars, List.splitOn_append_cons_of_beq _ _ (by decide), List.map_append]
  rfl

theorem lines_cons (h : IsLine text) (after : String) :
    lines (text ++ "\n" ++ after) = text :: lines after := by
  rw [lines_append_newline, lines_of_isLine h]
  rfl

theorem lines_join (h : ∀ part ∈ parts, IsLine part) (after : String) :
    lines (String.join (parts.map (· ++ "\n")) ++ after) = parts ++ lines after := by
  induction parts with
  | nil => simp
  | cons part parts ih =>
      obtain ⟨hpart, hparts⟩ := List.forall_mem_cons.mp h
      rw [List.map_cons, String.join_cons, String.append_assoc, lines_cons hpart, ih hparts]
      rfl

theorem lines_intercalate (h : ∀ part ∈ parts, IsLine part) (hne : parts ≠ []) :
    lines ("\n".intercalate parts) = parts := by
  have hpieces : ∀ piece ∈ parts.map String.toList, '\n' ∉ piece := by simpa [IsLine] using h
  rw [lines, String.toList_intercalate]
  change List.map _ (List.splitOn '\n' (['\n'].intercalate (parts.map String.toList))) = parts
  rw [List.splitOn_intercalate '\n' hpieces (by simpa using hne)]
  simp [Function.comp_def]

/-! ## The end of a text -/

theorem intercalate_lines (text : String) : "\n".intercalate (lines text) = text := by
  rw [← String.toList_inj, String.toList_intercalate, lines, List.map_map]
  change ['\n'].intercalate ((text.toList.splitOn '\n').map _) = text.toList
  simp [Function.comp_def, List.intercalate_splitOn]

theorem endsLine_iff :
    endsLine text = true ↔ ∃ above, above ≠ [] ∧ lines text = above ++ [""] := by
  rw [endsLine, decide_eq_true_iff]
  constructor
  · intro hend
    obtain ⟨front, hfront⟩ := List.getLast?_eq_some_iff.mp hend
    have htext : text = String.ofList front ++ "\n" ++ "" := by
      rw [← String.toList_inj, hfront]
      simp
    refine ⟨lines (String.ofList front), by simp [lines], ?_⟩
    rw [htext, lines_append_newline]
    rfl
  · rintro ⟨above, hne, hlines⟩
    rw [← intercalate_lines text, hlines,
      String.intercalate_append_of_ne_nil hne (List.cons_ne_nil _ _)]
    simp

theorem endsLine_iff_of_lines {above : List String} {last : String} {n : Nat}
    (h : lines text = above ++ last :: List.replicate n "") (hlast : last ≠ "") :
    endsLine text = true ↔ n ≠ 0 := by
  rw [endsLine_iff, h]
  cases n with
  | zero =>
      refine ⟨?_, fun hzero => absurd rfl hzero⟩
      rintro ⟨above', -, heq⟩
      have hsame := congrArg List.getLast? heq
      simp [hlast] at hsame
  | succ n =>
      refine ⟨fun _ => Nat.succ_ne_zero n, fun _ => ?_⟩
      exact ⟨above ++ last :: List.replicate n "", by simp, by simp [List.replicate_succ']⟩

theorem written_of_ne_empty {last : String} (hlast : last ≠ "") (above : List String)
    (n : Nat) : written (above ++ last :: List.replicate n "") = above ++ [last] := by
  rw [written]
  induction n with
  | zero => exact List.rdropWhile_concat_neg _ _ _ (by simpa using hlast)
  | succ n ih =>
      rw [List.replicate_succ', ← List.cons_append, ← List.append_assoc,
        List.rdropWhile_concat_pos _ _ _ (by simp), ih]

/-- Between two lines that are not empty, the number of empty ones is determined. -/
theorem blank_lines_inj {first second : String} {below below' : List String} {n n' : Nat}
    (hfirst : first ≠ "") (hsecond : second ≠ "")
    (h : List.replicate n "" ++ first :: below = List.replicate n' "" ++ second :: below') :
    n = n' := by
  have hcount (head : String) (hhead : head ≠ "") (rest : List String) (n : Nat) :
      ((List.replicate n "" ++ head :: rest).takeWhile (· = "")).length = n := by
    rw [List.takeWhile_append_of_pos (by simp), List.takeWhile_cons_of_neg (by simpa using hhead)]
    simp
  rw [← hcount first hfirst below n, h, hcount second hsecond below' n']

end Lines

end VoiceHub.Text
