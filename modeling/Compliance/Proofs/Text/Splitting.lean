import Mathlib.Data.String.Basic

/-!
Splitting a text at a character. Going through the text by byte positions gives the stretches
between the places where the character stands.
-/

namespace Compliance

open String (utf8Len)

theorem splitOnAux_eq (c : Char) (before current after : List Char) (done : List String) :
    (String.ofList (before ++ current ++ after)).splitOnAux (String.ofList [c])
        ⟨utf8Len before⟩ ⟨utf8Len before + utf8Len current⟩ 0 done =
      done.reverse ++
        (after.splitOnPPrepend (fun d => d == c) current.reverse).map String.ofList := by
  induction after generalizing before current done with
  | nil =>
      have ended := (String.atEnd_of_valid (before ++ current) []).mpr rfl
      rw [String.utf8Len_append] at ended
      rw [String.splitOnAux, if_pos ended, String.extract_of_valid before current []]
      simp
  | cons d rest ih =>
      have going := mt (String.atEnd_of_valid (before ++ current) (d :: rest)).mp (by simp)
      have here : String.Pos.Raw.get (String.ofList (before ++ current ++ d :: rest))
          ⟨utf8Len (before ++ current)⟩ = d := String.get_of_valid (before ++ current) (d :: rest)
      have next := String.next_of_valid (before ++ current) d rest
      have sought : String.Pos.Raw.get (String.ofList [c]) 0 = c := String.get_of_valid [] [c]
      rw [String.utf8Len_append] at going here next
      rw [String.splitOnAux, if_neg going, here, sought, next, List.splitOnPPrepend_cons_eq_if]
      by_cases same : d = c
      · subst same
        have past : String.Pos.Raw.next (String.ofList [d]) 0 = ⟨d.utf8Size⟩ := by
          simpa using String.next_of_valid [] d []
        have matched : String.Pos.Raw.atEnd (String.ofList [d]) ⟨d.utf8Size⟩ := by
          simpa using String.atEnd_of_valid [d] []
        have back : String.Pos.Raw.unoffsetBy
            ⟨utf8Len before + utf8Len current + d.utf8Size⟩ ⟨d.utf8Size⟩ =
              ⟨utf8Len before + utf8Len current⟩ := by
          simp [String.Pos.Raw.ext_iff]
        have begun := ih (before ++ current ++ [d]) [] (String.ofList current :: done)
        rw [past, if_pos matched, back, String.extract_of_valid before current (d :: rest)]
        simpa [Nat.add_assoc] using begun
      · have other : ¬ (d == c) = true := by simpa using same
        have stay : String.Pos.Raw.unoffsetBy ⟨utf8Len before + utf8Len current⟩ 0 =
            ⟨utf8Len before + utf8Len current⟩ := by
          simp
        have continued := ih before (current ++ [d]) done
        rw [if_neg other, if_neg other, stay, next]
        simpa [Nat.add_assoc] using continued

theorem splitOn_eq (text : String) (c : Char) :
    text.splitOn (String.ofList [c]) =
      (text.toList.splitOnP fun d => d == c).map String.ofList := by
  have visible : (String.ofList [c] == "") = false := by simp
  have split := splitOnAux_eq c [] [] text.toList []
  rw [String.splitOn, visible]
  simpa using split

end Compliance
