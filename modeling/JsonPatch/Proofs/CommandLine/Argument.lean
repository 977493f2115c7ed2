import JsonPatch.CommandLine.Arguments
import Mathlib.Tactic.Common

/-! # Arguments that are taken away

A value that is given as two dashes is taken away (`Argument.ofText`), and then a command has
nothing to read.  Reading keeps the texts of the arguments: what is no option stays as it is in the
tokens (`tokens_plain`), and each value of a command comes from such a token (`readCommand_values`).
So the sources of a command are all there if no argument is two dashes (`read_sources`). -/

namespace JsonPatch.CommandLine

/-- The argument that ends the options, or that is taken away. -/
def dashes : String := "--"

theorem Argument.ofText_eq_none {text : String} : Argument.ofText text = none ↔ text = dashes := by
  unfold ofText dashes
  split_ifs with h <;> simp [h]

/-- The values that a command reads its inputs by. -/
def Command.sources : Command → List Argument
  | apply patch document _ _ => [patch, document]
  | pointer path document => [path, document]
  | check predicate document => [predicate, document]

variable {all : List (String × Switch)}

/-! ### Tokens -/

theorem candidates_ne_plain {arg : List Char} {t : Token} (h : t ∈ candidates all arg)
    (text : String) : t ≠ .plain text := by
  rintro rfl
  unfold candidates at h
  split at h
  · obtain ⟨⟨name, s⟩, -, hs⟩ := List.mem_filterMap.mp h
    dsimp only at hs
    split_ifs at hs
    cases hs
  · obtain ⟨⟨name, s⟩, -, hs⟩ := List.mem_filterMap.mp h
    dsimp only at hs
    split_ifs at hs <;> cases hs

/-- An argument that is no option is kept as it is. -/
theorem token_plain {arg text : String} (h : token all arg = .ok (.plain text)) : text = arg := by
  unfold token at h
  split at h
  · unfold dashed at h
    dsimp only at h
    split at h
    · cases h
    · split at h
      · cases h
      · split at h
        · rename_i t ht
          cases h
          exact absurd rfl (candidates_ne_plain (ht ▸ List.mem_singleton_self _) text)
        · cases h
        · split_ifs at h
          · cases h
            rfl
          · cases h
  · cases h
    rfl

theorem tokens_plain {args : List String} {ts : List Token} (h : tokens all args = .ok ts)
    {text : String} (ht : .plain text ∈ ts) : text ∈ args := by
  induction args generalizing ts with
  | nil =>
      cases h
      cases ht
  | cons arg rest ih =>
      rw [tokens] at h
      split_ifs at h with hdashes
      · cases h
        obtain ⟨text', hmem, heq⟩ := List.mem_map.mp (List.mem_of_ne_of_mem (by simp) ht)
        cases heq
        exact List.mem_cons_of_mem _ hmem
      · split at h
        · rename_i t more htoken hmore
          cases h
          rcases List.mem_cons.mp ht with rfl | ht
          · exact token_plain htoken ▸ List.mem_cons_self
          · exact List.mem_cons_of_mem _ (ih hmore ht)
        · cases h
        · cases h

/-! ### Values -/

theorem Given.putFlag_values {g g' : Given} {s : Switch} {attached : Attached}
    (h : g.putFlag all s attached = .ok g') : g'.values = g.values := by
  unfold putFlag at h
  dsimp only at h
  split_ifs at h
  cases h
  rfl

/-- A command takes its values from arguments that are no options, so none of them is taken away if
no such argument is two dashes. -/
theorem readCommand_values {count : Nat} {ts : List Token} {before : Before} {g g' : Given}
    (h : readCommand all count ts before g = .ok g') (hts : .plain dashes ∉ ts)
    (hg : none ∉ g.values) : none ∉ g'.values := by
  fun_induction readCommand all count ts before g with
  | case1 | case11 | case13 => cases h
  | case2 =>
      cases h
      exact hg
  | case3 text rest before g hcount value ih =>
      -- one more value, from an argument that is not two dashes
      refine ih h (List.not_mem_of_not_mem_cons hts) fun hmem => ?_
      rcases List.mem_append.mp hmem with hmem | hmem
      · exact hg hmem
      · have hvalue : value = none := (List.mem_singleton.mp hmem).symm
        unfold value at hvalue
        split_ifs at hvalue
        rw [Argument.ofText_eq_none.mp hvalue] at hts
        exact hts List.mem_cons_self
  | case10 s attached _ g _ value rest _ ih =>
      exact ih h (List.not_mem_of_not_mem_cons (List.not_mem_of_not_mem_cons hts)) hg
  | case12 s attached rest _ g _ g₁ hflag ih =>
      rw [← Given.putFlag_values hflag] at hg
      exact ih h (List.not_mem_of_not_mem_cons hts) hg
  | case4 | case5 | case6 | case7 | case8 | case9 =>
      -- no value is read
      rename_i ih
      exact ih h (List.not_mem_of_not_mem_cons hts) hg

/-- What is left for the command are the last arguments, as they were given. -/
theorem readProgram_rest {ts : List (Token × String)} {g g' : Given} {name : String}
    {rest : List String} (h : readProgram all ts g = .ok (g', name, rest)) :
    rest <:+ ts.map (·.2) := by
  fun_induction readProgram all ts g with
  | case1 | case3 | case7 | case9 => cases h
  | case2 =>
      cases h
      exact List.suffix_cons _ _
  | case6 _ _ _ _ _ _ _ _ _ ih =>
      exact (ih h).trans ((List.suffix_cons _ _).trans (List.suffix_cons _ _))
  | case4 | case5 | case8 =>
      rename_i ih
      exact (ih h).trans (List.suffix_cons _ _)

theorem readNamed_sources {name : String} {args : List String} {command : Command} {stray : Bool}
    (h : readNamed name args = .ok (command, stray)) (hargs : dashes ∉ args) :
    none ∉ command.sources := by
  unfold readNamed at h
  split at h
  · cases h
  · rename_i entry switches make hentry
    dsimp only at h
    split at h
    · cases h
    · rename_i ts hts
      split at h
      · cases h
      · rename_i g hg
        have hvalues : none ∉ g.values :=
          readCommand_values hg (fun hmem => hargs (tokens_plain hts hmem)) (by simp)
        split at h
        · rename_i first second hpair
          cases h
          rw [hpair] at hvalues
          have hmem := List.mem_of_find?_eq_some hentry
          simp only [commands, List.mem_cons, List.not_mem_nil, or_false, Prod.mk.injEq] at hmem
          rcases hmem with ⟨-, -, rfl⟩ | ⟨-, -, rfl⟩ | ⟨-, -, rfl⟩ <;> exact hvalues
        · cases h

/-- Without two dashes among the arguments, the command has all its sources. -/
theorem read_sources {args : List String} {i : Invocation} (h : read args = .ok i)
    (hargs : dashes ∉ args) : none ∉ i.command.sources := by
  unfold read at h
  dsimp only at h
  split at h
  · cases h
  · rename_i ts hts
    split at h
    · cases h
    · rename_i g name rest hprogram
      split at h
      · cases h
      · rename_i command stray hnamed
        split_ifs at h
        cases h
        refine readNamed_sources hnamed fun hmem => hargs ?_
        obtain ⟨⟨t, arg⟩, ht, harg⟩ := List.mem_map.mp ((readProgram_rest hprogram).mem hmem)
        exact harg ▸ (List.of_mem_zip ht).2

end JsonPatch.CommandLine
