import Literate.Proofs.Header

/-!
# Header arguments one after another

Header arguments that are written behind others are laid over them: the later
value of a key prevails, at the place where the key came first.  Variables are
the exception, since their assignments are collected.

**Reading.**  What two texts say together is what each of them says, laid over one
another, whatever the first text ends with.  Only a variable without a value is
in the way: nothing is collected behind it.

**Main statements.**
* `addArgument_overlay`, `addAll_overlay`: one argument and several arguments more
  may be read before or after laying over.
* `parse_append_eq_overlay`: the arguments of two texts one after the other.
-/

namespace Literate
namespace Header

/-- Header arguments laid over others.  The later value of a key prevails, except that variables are
collected. -/
def overlay (params others : Params) : Params :=
  match params.get? variableKey, others.get? variableKey with
  | some first, some second => (params.update others).insert variableKey (first ++ ", " ++ second)
  | _, _ => params.update others

/-- Every argument of a text that is to assign variables has a value. -/
def AssignsVariables (t : Text) : Prop :=
  ∀ value, (variableKey, value) ∈ arguments t → value ≠ []

theorem assignsVariables_of_all
    {t : Text}
    (h : ((arguments t).all fun argument => decide (argument ≠ (variableKey, []))) = true) :
    AssignsVariables t := by
  rintro value hvalue rfl
  exact of_decide_eq_true (List.all_eq_true.mp h _ hvalue) rfl

section Overlay

variable {params others : Params} {key value : Text}

theorem addArgument_of_ne
    (params : Params) (value : Text)
    (h : key ≠ variableKey) :
    addArgument params key value = params.insert key value := by
  unfold addArgument
  split
  · rw [if_neg h]
  · rfl

theorem addArgument_variable_of_none
    (value : Text)
    (h : params.get? variableKey = none) :
    addArgument params variableKey value = params.insert variableKey value := by
  rw [addArgument, h]

/-- Variables are added behind those that are there. -/
theorem addArgument_variable_of_some
    {earlier : Text} (value : Text)
    (h : params.get? variableKey = some earlier)
    (hne : earlier ≠ []) :
    addArgument params variableKey value =
      params.insert variableKey (earlier ++ ", " ++ value) := by
  cases earlier with
  | nil =>
      exact absurd rfl hne
  | cons c earlier =>
      rw [addArgument, h]
      exact if_pos rfl

theorem overlay_of_left_none
    (others : Params)
    (h : params.get? variableKey = none) :
    overlay params others = params.update others := by
  rw [overlay, h]

theorem overlay_of_right_none
    (params : Params)
    (h : others.get? variableKey = none) :
    overlay params others = params.update others := by
  rw [overlay, h]
  cases params.get? variableKey <;> rfl

theorem overlay_of_some
    {first second : Text}
    (hfirst : params.get? variableKey = some first)
    (hsecond : others.get? variableKey = some second) :
    overlay params others =
      (params.update others).insert variableKey (first ++ ", " ++ second) := by
  rw [overlay, hfirst, hsecond]

/-- One more argument may be read before or after laying over. -/
theorem addArgument_overlay
    (hnodup : others.keys.Nodup)
    (hparams : params.get? variableKey ≠ some [])
    (hothers : others.get? variableKey ≠ some []) :
    addArgument (overlay params others) key value = overlay params (addArgument others key value) := by
  have hupdate := Dictionary.get?_update params variableKey hnodup
  by_cases hkey : key = variableKey
  · subst hkey
    cases hsecond : others.get? variableKey with
    | none =>
        have hnew : (others.insert variableKey value).get? variableKey = some value := by
          rw [Dictionary.get?_insert, if_pos rfl]
        rw [hsecond, Option.none_or] at hupdate
        rw [overlay_of_right_none params hsecond, addArgument_variable_of_none value hsecond]
        cases hfirst : params.get? variableKey with
        | none =>
            rw [hfirst] at hupdate
            rw [addArgument_variable_of_none value hupdate, overlay_of_left_none _ hfirst,
              Dictionary.update_insert _ _ _ hnodup]
        | some first =>
            rw [hfirst] at hupdate
            have hne : first ≠ [] := by
              rintro rfl
              exact hparams hfirst
            rw [addArgument_variable_of_some value hupdate hne, overlay_of_some hfirst hnew,
              Dictionary.update_insert _ _ _ hnodup, Dictionary.insert_insert]
    | some second =>
        have hne : second ≠ [] := by
          rintro rfl
          exact hothers hsecond
        have hnew : (others.insert variableKey (second ++ ", " ++ value)).get? variableKey =
            some (second ++ ", " ++ value) := by
          rw [Dictionary.get?_insert, if_pos rfl]
        rw [hsecond, Option.some_or] at hupdate
        rw [addArgument_variable_of_some value hsecond hne]
        cases hfirst : params.get? variableKey with
        | none =>
            rw [overlay_of_left_none _ hfirst, overlay_of_left_none _ hfirst,
              addArgument_variable_of_some value hupdate hne, Dictionary.update_insert _ _ _ hnodup]
        | some first =>
            have hboth : ((params.update others).insert variableKey (first ++ ", " ++ second)).get?
                variableKey = some (first ++ ", " ++ second) := by
              rw [Dictionary.get?_insert, if_pos rfl]
            rw [overlay_of_some hfirst hsecond, overlay_of_some hfirst hnew,
              addArgument_variable_of_some value hboth (by simp), Dictionary.update_insert _ _ _ hnodup,
              Dictionary.insert_insert, Dictionary.insert_insert]
            simp only [List.append_assoc]
  · have hsame : (others.insert key value).get? variableKey = others.get? variableKey := by
      rw [Dictionary.get?_insert, if_neg hkey]
    rw [addArgument_of_ne _ _ hkey, addArgument_of_ne _ _ hkey]
    cases hsecond : others.get? variableKey with
    | none =>
        rw [hsecond] at hsame
        rw [overlay_of_right_none _ hsecond, overlay_of_right_none _ hsame,
          Dictionary.update_insert _ _ _ hnodup]
    | some second =>
        rw [hsecond] at hsame hupdate
        cases hfirst : params.get? variableKey with
        | none =>
            rw [overlay_of_left_none _ hfirst, overlay_of_left_none _ hfirst,
              Dictionary.update_insert _ _ _ hnodup]
        | some first =>
            have hmem : variableKey ∈ (params.update others).keys := by
              by_contra habsent
              rw [Dictionary.get?_eq_none_iff.mpr habsent] at hupdate
              cases hupdate
            rw [overlay_of_some hfirst hsecond, overlay_of_some hfirst hsame,
              Dictionary.insert_comm_of_mem _ _ hmem (Ne.symm hkey),
              Dictionary.update_insert _ _ _ hnodup]

/-- Variables have a value once they have been given one. -/
theorem get?_addArgument_ne
    (hparams : params.get? variableKey ≠ some [])
    (hvalue : key = variableKey → value ≠ []) :
    (addArgument params key value).get? variableKey ≠ some [] := by
  by_cases hkey : key = variableKey
  · subst hkey
    cases hfirst : params.get? variableKey with
    | none =>
        rw [addArgument_variable_of_none value hfirst, Dictionary.get?_insert, if_pos rfl]
        simpa using hvalue rfl
    | some first =>
        have hne : first ≠ [] := by
          rintro rfl
          exact hparams hfirst
        rw [addArgument_variable_of_some value hfirst hne, Dictionary.get?_insert, if_pos rfl]
        simp
  · rwa [addArgument_of_ne _ _ hkey, Dictionary.get?_insert, if_neg hkey]

theorem get?_addAll_ne
    {read : List (Text × Text)}
    (hparams : params.get? variableKey ≠ some [])
    (hread : ∀ value, (variableKey, value) ∈ read → value ≠ []) :
    (addAll params read).get? variableKey ≠ some [] := by
  induction read generalizing params with
  | nil =>
      exact hparams
  | cons argument rest ih =>
      obtain ⟨key, value⟩ := argument
      refine ih (get?_addArgument_ne hparams ?_) fun later hlater =>
        hread later (List.mem_cons_of_mem _ hlater)
      rintro rfl
      exact hread value List.mem_cons_self

/-- Arguments may be read before or after laying over. -/
theorem addAll_overlay
    {read : List (Text × Text)}
    (hnodup : others.keys.Nodup)
    (hparams : params.get? variableKey ≠ some [])
    (hothers : others.get? variableKey ≠ some [])
    (hread : ∀ value, (variableKey, value) ∈ read → value ≠ []) :
    addAll (overlay params others) read = overlay params (addAll others read) := by
  induction read generalizing others with
  | nil =>
      rfl
  | cons argument rest ih =>
      obtain ⟨key, value⟩ := argument
      have hstep : addArgument (overlay params others) key value =
          overlay params (addArgument others key value) := addArgument_overlay hnodup hparams hothers
      have hvalue : key = variableKey → value ≠ [] := by
        rintro rfl
        exact hread value List.mem_cons_self
      have hlater := ih (nodup_keys_addArgument key value hnodup)
        (get?_addArgument_ne hothers hvalue)
        fun later hlater => hread later (List.mem_cons_of_mem _ hlater)
      rw [← hstep] at hlater
      exact hlater

end Overlay

/-- **Arguments one after another.**  Behind whatever text, further arguments are laid over what that text
says. -/
theorem parse_append_eq_overlay
    (a b : Text)
    (hstart : ∃ c rest, b = ':' :: c :: rest ∧ c.isAlpha = true)
    (ha : AssignsVariables a)
    (hb : AssignsVariables b) :
    parse (a ++ ' ' :: b) = overlay (parse a) (parse b) := by
  obtain ⟨c, rest, rfl, hletter⟩ := hstart
  have hnodup : (Dictionary.empty : Params).keys.Nodup := List.nodup_nil
  have hnone : (Dictionary.empty : Params).get? variableKey ≠ some [] := by
    rintro ⟨⟩
  have hfirst : (parse a).get? variableKey ≠ some [] := by
    rw [parse_eq_addAll]
    exact get?_addAll_ne hnone ha
  have hempty : overlay (parse a) Dictionary.empty = parse a := overlay_of_right_none _ rfl
  have happend : arguments (a ++ ' ' :: ':' :: c :: rest) =
      arguments a ++ arguments (':' :: c :: rest) := arguments_append a hletter
  have hlater := addAll_overlay hnodup hfirst hnone hb
  rw [hempty, ← parse_eq_addAll (':' :: c :: rest)] at hlater
  rw [← hlater, parse_eq_addAll, parse_eq_addAll, happend]
  exact List.foldl_append

/-- The first text begins with something that is no argument and ends with a colon, both texts assign
variables, and a key of the first comes again in the second. -/
theorem parse_append_eq_overlay_seam :
    let a : Text := "junk :x 1 :VAR a=1 :y \"2 :"
    let b : Text := ":x 3 :var b=2 :var c=3 :z"
    let entries : List (Text × Text) :=
      [("junk", []), ("x", "3"), ("var", "a=1, b=2, c=3"), ("y", "\"2 :"), ("z", [])]
    (∃ c rest, b = ':' :: c :: rest ∧ c.isAlpha = true) ∧
      AssignsVariables a ∧ AssignsVariables b ∧
      parse (a ++ ' ' :: b) = overlay (parse a) (parse b) ∧
      overlay (parse a) (parse b) = ⟨entries⟩ := by
  intro a b entries
  have hstart : ∃ c rest, b = ':' :: c :: rest ∧ c.isAlpha = true := ⟨'x', _, rfl, rfl⟩
  have ha : AssignsVariables a := assignsVariables_of_all (by decide +kernel)
  have hb : AssignsVariables b := assignsVariables_of_all (by decide +kernel)
  exact ⟨hstart, ha, hb, parse_append_eq_overlay a b hstart ha hb, by decide +kernel⟩

end Header
end Literate
