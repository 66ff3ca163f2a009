import Mathlib.Data.List.Flatten

/-
  Texts in rows of one width.

  A buffer is cut into rows of one width, and each of them
  has a text at its start and is filled up behind it. The
  file says what the rows are after a text has been written
  to the first empty one, and how a text is found again from
  the index of its row. What is as long as a number of rows
  is cut into them.

  Key definitions include:
    * `row`
    * `rows`
    * `overwrite`

  Key theorems include:
    * `overwrite_rows`
    * `drop_rows`
    * `exists_flatten`
-/

------------------------------------------------------------
-- Rows
------------------------------------------------------------

namespace D2Common

namespace Rows

variable {V : Type}

/- A text that is filled up to a width. -/
def row
    (fill : V)
    (width : Nat)
    (text : List V) : List V :=
  text ++ List.replicate (width - text.length) fill

/- The rows of some texts. -/
def rows
    (fill : V)
    (width : Nat)
    (texts : List (List V)) : List V :=
  texts.flatMap (row fill width)

/- A buffer with a text written to it at a position. -/
def overwrite
    (buf : List V)
    (pos : Nat)
    (text : List V) : List V :=
  buf.take pos ++ text ++ buf.drop (pos + text.length)

theorem length_row
    (fill : V)
    {width : Nat}
    {text : List V}
    (hFits : text.length ≤ width) :
    (row fill width text).length = width := by
  rw [row, List.length_append, List.length_replicate,
    Nat.add_sub_cancel' hFits]

/- What is filled up may start with what fills it. -/
theorem row_concat
    (fill : V)
    {width : Nat}
    {text : List V}
    (hFits : text.length < width) :
    row fill width (text ++ [fill]) = row fill width text := by
  have hRest :
      width - text.length = width - (text.length + 1) + 1 := by
    omega
  rw [row, row, List.length_append, List.length_singleton,
    hRest, List.replicate_succ, List.append_assoc,
    List.singleton_append]

theorem rows_append
    (fill : V)
    (width : Nat)
    (texts more : List (List V)) :
    rows fill width (texts ++ more) =
      rows fill width texts ++ rows fill width more :=
  List.flatMap_append

theorem rows_cons
    (fill : V)
    (width : Nat)
    (text : List V)
    (texts : List (List V)) :
    rows fill width (text :: texts) =
      row fill width text ++ rows fill width texts := rfl

theorem length_rows
    (fill : V)
    {width : Nat}
    {texts : List (List V)}
    (hFit : ∀ text ∈ texts, text.length ≤ width) :
    (rows fill width texts).length = texts.length * width := by
  induction texts with
  | nil => simp [rows]
  | cons text texts ih =>
      have hFirst := hFit text List.mem_cons_self
      have hRest :=
        ih fun text hText =>
          hFit text (List.mem_cons_of_mem _ hText)
      rw [rows_cons, List.length_append,
        length_row fill hFirst, hRest, List.length_cons,
        Nat.succ_mul, Nat.add_comm]

theorem rows_replicate_nil
    (fill : V)
    (width count : Nat) :
    rows fill width (List.replicate count []) =
      List.replicate (count * width) fill := by
  induction count with
  | zero => simp [rows]
  | succ count ih =>
      rw [List.replicate_succ, rows_cons, ih, row,
        List.nil_append, List.length_nil, Nat.sub_zero,
        List.replicate_append_replicate, Nat.succ_mul,
        Nat.add_comm]

/- A text that is written to the first of the empty rows. -/
theorem overwrite_rows
    (fill : V)
    {width : Nat}
    {texts : List (List V)}
    (hFit : ∀ text ∈ texts, text.length ≤ width)
    {text : List V}
    (hFits : text.length ≤ width)
    (count : Nat) :
    overwrite
        (rows fill width
          (texts ++ List.replicate (count + 1) []))
        (texts.length * width) text =
      rows fill width
        (texts ++ text :: List.replicate count []) := by
  have hLength := length_rows fill hFit
  have hRest :
      (count + 1) * width - text.length =
        width - text.length + count * width := by
    rw [Nat.succ_mul]
    omega
  rw [overwrite, rows_append, rows_append, rows_cons,
    ← hLength, List.take_left, List.drop_append,
    List.drop_eq_nil_of_le (Nat.le_add_right _ _),
    Nat.add_sub_cancel_left, rows_replicate_nil,
    rows_replicate_nil, List.drop_replicate, hRest,
    ← List.replicate_append_replicate, row]
  simp only [List.nil_append, List.append_assoc]

/- A row is found from its index. -/
theorem drop_rows
    (fill : V)
    {width : Nat}
    {texts : List (List V)}
    (hFit : ∀ text ∈ texts, text.length ≤ width)
    {i : Nat}
    {text : List V}
    (hText : texts[i]? = some text) :
    ∃ rest,
      (rows fill width texts).drop (i * width) =
        row fill width text ++ rest := by
  induction texts generalizing i with
  | nil => cases hText
  | cons first texts ih =>
      rw [rows_cons]
      cases i with
      | zero =>
          cases hText
          rw [Nat.zero_mul]
          exact ⟨rows fill width texts, rfl⟩
      | succ i =>
          have hFirst := hFit first List.mem_cons_self
          rw [Nat.succ_mul, Nat.add_comm, ← List.drop_drop,
            List.drop_left' (length_row fill hFirst)]
          exact
            ih
              (fun text hText =>
                hFit text (List.mem_cons_of_mem _ hText))
              hText

end Rows

end D2Common

------------------------------------------------------------
-- Rows Without Filling
------------------------------------------------------------

namespace D2Common

namespace Rows

variable {V : Type}

theorem length_flatten
    {width : Nat}
    {texts : List (List V)}
    (hFull : ∀ text ∈ texts, text.length = width) :
    texts.flatten.length = texts.length * width := by
  induction texts with
  | nil => simp
  | cons text texts ih =>
      have hRest :=
        ih fun t ht => hFull t (List.mem_cons_of_mem _ ht)
      rw [List.flatten_cons, List.length_append, hRest,
        hFull text List.mem_cons_self, List.length_cons,
        Nat.succ_mul, Nat.add_comm]

/- What has the length of some rows consists of them. -/
theorem exists_flatten
    {width : Nat}
    (count : Nat)
    {l : List V}
    (hLength : l.length = count * width) :
    ∃ texts : List (List V),
      l = texts.flatten ∧
        texts.length = count ∧
          ∀ text ∈ texts, text.length = width := by
  induction count generalizing l with
  | zero =>
      rw [Nat.zero_mul] at hLength
      exact ⟨[], List.eq_nil_of_length_eq_zero hLength, by simp⟩
  | succ count ih =>
      rw [Nat.succ_mul] at hLength
      have hDrop : (l.drop width).length = count * width := by
        rw [List.length_drop]
        omega
      rcases ih hDrop with ⟨texts, hTexts, hCount, hFull⟩
      refine ⟨l.take width :: texts, ?_, ?_, ?_⟩
      · rw [List.flatten_cons, ← hTexts,
          List.take_append_drop]
      · rw [List.length_cons, hCount]
      · intro text hText
        rcases List.mem_cons.mp hText with rfl | hText
        · rw [List.length_take]
          omega
        · exact hFull text hText

end Rows

end D2Common
