import D2Common.Utils.LocCfg

/-
  The buffers that a file is read into.

  Successive calls of `fgets` cut a file into buffers. They
  cut it after every newline, so that lines can be looked at
  one by one, and a line that does not fit into the buffer
  is cut into several.

  Key definitions include:
    * `Ended`
    * `IsLine`

  Key theorems include:
    * `fgetsAll_append`
    * `fgetsAll_unread`
    * `fgetsAll_of_isLine`
-/

------------------------------------------------------------
-- One Buffer After the Other
------------------------------------------------------------

namespace D2Common

namespace LocCfg

open Cfg (fgetsFrom fgetsAll maxParamLine)

/- The buffers are the text, cut into parts. -/
theorem flatten_fgetsFrom (buf text : List Char) :
    (fgetsFrom buf text).flatten = buf ++ text := by
  induction text generalizing buf with
  | nil =>
      unfold fgetsFrom
      split
      · next hNil => simp [hNil]
      · simp
  | cons c text ih =>
      unfold fgetsFrom
      split
      · rw [List.flatten_cons, ih []]
        simp
      · rw [ih (buf ++ [c])]
        simp

theorem flatten_fgetsAll (text : List Char) :
    (fgetsAll text).flatten = text :=
  flatten_fgetsFrom [] text

theorem mem_of_mem_fgetsAll
    {text buf : List Char}
    (hBuf : buf ∈ fgetsAll text)
    {c : Char}
    (hc : c ∈ buf) :
    c ∈ text := by
  rw [← flatten_fgetsAll text]
  exact List.mem_flatten.mpr ⟨buf, hBuf, hc⟩

@[simp] theorem fgetsAll_nil : fgetsAll [] = [] := rfl

/- The first call reads something and leaves the rest. -/
theorem fgetsFrom_cons
    (buf text : List Char)
    (hSome : buf ++ text ≠ []) :
    ∃ first rest,
      first ≠ [] ∧ buf ++ text = first ++ rest ∧
        fgetsFrom buf text = first :: fgetsAll rest := by
  induction text generalizing buf with
  | nil =>
      rw [List.append_nil] at hSome
      exact ⟨buf, [], hSome, rfl, by simp [fgetsFrom, hSome]⟩
  | cons c text ih =>
      by_cases hEnd : c = '\n' ∨ buf.length + 2 = maxParamLine
      · refine ⟨buf ++ [c], text, by simp, by simp, ?_⟩
        rw [fgetsFrom, if_pos hEnd]
        rfl
      · rcases ih (buf ++ [c]) (by simp) with
          ⟨first, rest, hFirst, hText, hAll⟩
        refine ⟨first, rest, hFirst, by simpa using hText, ?_⟩
        rw [fgetsFrom, if_neg hEnd, hAll]

/- The rest of a file is read as it would have been. -/
theorem fgetsAll_unread
    (text : List Char)
    (k : Nat) :
    fgetsAll ((fgetsAll text).drop k).flatten =
      (fgetsAll text).drop k := by
  induction k generalizing text with
  | zero =>
      rw [List.drop_zero, flatten_fgetsAll]
  | succ k ih =>
      by_cases hNil : text = []
      · simp [hNil]
      · rcases fgetsFrom_cons [] text hNil with
          ⟨first, rest, -, -, hAll⟩
        have hHere : fgetsAll text = first :: fgetsAll rest :=
          hAll
        rw [hHere, List.drop_succ_cons]
        exact ih rest

end LocCfg

end D2Common

------------------------------------------------------------
-- Lines of a File
------------------------------------------------------------

namespace D2Common

namespace LocCfg

open Cfg (fgetsFrom fgetsAll maxParamLine)

/- Text after which a line starts. -/
def Ended (text : List Char) : Prop :=
  text = [] ∨ ∃ before, text = before ++ ['\n']

/- A line, which only the end of the file may cut short. -/
def IsLine (line : List Char) : Prop :=
  line ≠ [] ∧ '\n' ∉ line.dropLast

theorem fgetsFrom_append
    (buf text after : List Char) :
    fgetsFrom buf (text ++ '\n' :: after) =
      fgetsFrom buf (text ++ ['\n']) ++ fgetsAll after := by
  induction text generalizing buf with
  | nil => simp [fgetsFrom, fgetsAll]
  | cons c text ih =>
      simp only [List.cons_append, fgetsFrom]
      split
      · rw [ih []]
        rfl
      · exact ih (buf ++ [c])

/- A newline separates what is before and after it. -/
theorem fgetsAll_append
    {text : List Char}
    (hText : Ended text)
    (after : List Char) :
    fgetsAll (text ++ after) =
      fgetsAll text ++ fgetsAll after := by
  rcases hText with rfl | ⟨before, rfl⟩
  · rfl
  · rw [List.append_assoc]
    exact fgetsFrom_append [] before after

theorem fgetsFrom_of_isLine
    (buf text : List Char)
    (hText : '\n' ∉ text.dropLast)
    (hSome : text ≠ [])
    (hRoom : buf.length + 1 < maxParamLine) :
    fgetsFrom buf text =
      (buf ++ text).take (maxParamLine - 1) ::
        fgetsAll ((buf ++ text).drop (maxParamLine - 1)) := by
  induction text generalizing buf with
  | nil => exact absurd rfl hSome
  | cons c text ih =>
      by_cases hFull : buf.length + 2 = maxParamLine
      · -- the buffer is full with this character
        have hLength :
            maxParamLine - 1 = (buf ++ [c]).length := by
          simp
          omega
        rw [fgetsFrom, if_pos (Or.inr hFull), hLength,
          List.append_cons buf c text, List.take_left,
          List.drop_left]
        rfl
      · cases text with
        | nil =>
            have hShort :
                (buf ++ [c]).length ≤ maxParamLine - 1 := by
              simp
              omega
            rw [List.take_of_length_le hShort,
              List.drop_eq_nil_of_le hShort]
            by_cases hNewline : c = '\n'
            · simp [fgetsFrom, hNewline]
            · simp [fgetsFrom, hNewline, hFull]
        | cons d text =>
            rw [List.dropLast_cons_cons] at hText
            simp only [List.mem_cons, not_or] at hText
            rw [fgetsFrom, if_neg (by
              rintro (hNewline | hEnd)
              · exact hText.1 hNewline.symm
              · exact hFull hEnd)]
            rw [ih (buf ++ [c]) hText.2 (by simp) (by
              simp
              omega)]
            simp

/- The first buffer of a line holds as much as it can. -/
theorem fgetsAll_of_isLine
    {line : List Char}
    (hLine : IsLine line) :
    fgetsAll line =
      line.take (maxParamLine - 1) ::
        fgetsAll (line.drop (maxParamLine - 1)) :=
  fgetsFrom_of_isLine [] line hLine.2 hLine.1 (by decide)

end LocCfg

end D2Common
