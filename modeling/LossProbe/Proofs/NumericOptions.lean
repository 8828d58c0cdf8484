import LossProbe.Proofs.CommandLines
import LossProbe.Proofs.NumberTexts

/-!
# Options with numbers

A command line is understood only if all its values are, wherever they stand, and so are those of
the variables that are looked at (`understood_of_readCommand`). For an option with numbers this
means that its text is one of its numbers, which then is its setting. In a command line that is
understood otherwise, each such text is taken (`numeric_options`).

Reading on never changes what is set, and sets only what is named (`Reading.Grows`).
-/

namespace LossProbe.CommandLine

namespace Argument

/-- The word that gives an option together with its value. -/
def word (a : Argument) (value : String) : String := "--" ++ a.long ++ "=" ++ value

/-- Whether a word gives an argument by its long name. -/
def NamedBy (a : Argument) (w : String) : Prop := w = "--" ++ a.long ∨ ∃ value, w = a.word value

/-- An option with its value is two dashes, the name, an equals sign and the value. -/
theorem toList_word (a : Argument) (value : String) :
    (a.word value).toList = '-' :: '-' :: (a.long.toList ++ '=' :: value.toList) := by
  simp [word]

/-- An option with its value is never the word that ends the options. -/
theorem word_ne (a : Argument) (value : String) : a.word value ≠ "--" := by
  intro h
  have hchars := a.toList_word value
  rw [h] at hchars
  simp at hchars

/-- No two options have the same name. -/
theorem long_injective {a b : Argument} (h : a.long = b.long) : a = b := by
  -- A monitor has all arguments, so it finds each of them by its name.
  have hfound (a : Argument) : Scope.monitor.long? a.long = some a := by cases a <;> rfl
  have heq := hfound a
  rw [h, hfound b] at heq
  exact (Option.some.inj heq).symm

end Argument

/-! ## Reading on -/

namespace Reading

/-- Whether an argument neither has a value nor waits for one. -/
structure Lacks (r : Reading) (a : Argument) : Prop where
  settings : r.settings a = none
  pending : ∀ value, r.pending ≠ some (a, value)

/-- What is set stays as it is, and only what is named is set or waits for its value. -/
structure Grows (r r' : Reading) (named : Argument → Prop) : Prop where
  scope : r'.scope = r.scope
  keeps : ∀ a v, r.settings a = some v → r'.settings a = some v
  lacks : ∀ a, ¬ named a → r.Lacks a → r'.Lacks a

section

variable {r r₁ r₂ r' : Reading} {named named' : Argument → Prop} {a : Argument} {value : String}

/-- Nothing was added to a reading by itself. -/
theorem Grows.refl (r : Reading) (named : Argument → Prop) : r.Grows r named :=
  ⟨rfl, fun _ _ h => h, fun _ _ h => h⟩

/-- What two steps of a reading add, both add together. -/
theorem Grows.trans (h : r.Grows r₁ named) (h' : r₁.Grows r₂ named) : r.Grows r₂ named where
  scope := h'.scope.trans h.scope
  keeps a v hv := h'.keeps a v (h.keeps a v hv)
  lacks a ha hr := h'.lacks a ha (h.lacks a ha hr)

/-- A step that adds options of one kind adds options of a wider kind. -/
theorem Grows.mono (h : r.Grows r' named) (hle : ∀ a, named a → named' a) : r.Grows r' named' where
  scope := h.scope
  keeps := h.keeps
  lacks a ha hr := h.lacks a (fun hnamed => ha (hle a hnamed)) hr

/-- A value is entered only if it is read and there is none yet. -/
theorem give_ok (h : r.give a value = .ok r') :
    ∃ v, a.read value = .ok v ∧ r.settings a = none ∧
      r' = { r with settings := r.settings.insert a v, given := r.given ++ [a] } := by
  unfold give at h
  -- Given once already, a value that reads, a value that does not.
  split at h
  · cases h
  · rename_i hnew
    have hnone : r.settings a = none := by simpa [Settings.has] using hnew
    split at h
    · rename_i v hv
      exact ⟨v, hv, hnone, (Except.ok.inj h).symm⟩
    · cases h

/-- Giving an option its value adds that option, with the value that its text is read as. -/
theorem Grows.give (h : r.give a value = .ok r') :
    r.Grows r' (· = a) ∧ ∃ v, a.read value = .ok v ∧ r'.settings a = some v := by
  obtain ⟨v, hv, hnone, rfl⟩ := give_ok h
  refine ⟨⟨rfl, fun b w hb => ?_, fun b hb hlacks => ⟨?_, hlacks.pending⟩⟩, v, hv,
    Settings.insert_self _ _ _⟩
  · -- The argument had no value, so none is replaced.
    have hne : a ≠ b := by
      rintro rfl
      rw [hnone] at hb
      cases hb
    exact (Settings.insert_of_ne _ _ hne).trans hb
  · exact (Settings.insert_of_ne _ _ (Ne.symm hb)).trans hlacks.settings

/-- A reading that waits for no value is resolved without adding anything. -/
theorem resolve_ok (h : r.resolve = .ok r') : r.Grows r' fun _ => False := by
  unfold resolve at h
  -- Nothing pending, an option without its value, an option with one.
  split at h
  · cases h
    exact .refl r _
  · cases h
  · rename_i b value hpending
    obtain ⟨hgrows, -⟩ := Grows.give h
    refine ⟨hgrows.scope, hgrows.keeps, fun a _ hlacks => ?_⟩
    apply hgrows.lacks a
    · rintro rfl
      exact hlacks.pending _ hpending
    · exact ⟨hlacks.settings, nofun⟩

/-- An option that is taken has the value that its text is read as, and no other is added. -/
theorem option_ok (h : r.option a value = .ok r') :
    r.Grows r' (· = a) ∧ ∃ v, a.read value = .ok v ∧ r'.settings a = some v := by
  unfold option at h
  obtain ⟨r₁, hresolve, hgive⟩ := exists_ok_of_bind h
  obtain ⟨hgrows, hv⟩ := Grows.give hgive
  exact ⟨((resolve_ok hresolve).mono fun _ => False.elim).trans hgrows, hv⟩

/-- Waiting for the value of an option adds no other. -/
theorem await_ok (h : r.await a = .ok r') : r.Grows r' (· = a) := by
  unfold await at h
  obtain ⟨r₁, hresolve, hawait⟩ := exists_ok_of_bind h
  cases hawait
  have hgrows := resolve_ok hresolve
  refine ⟨hgrows.scope, hgrows.keeps, fun b hb hlacks => ?_⟩
  refine ⟨(hgrows.lacks b id hlacks).settings, fun value heq => ?_⟩
  exact hb (congrArg Prod.fst (Option.some.inj heq)).symm

/-- A flag that is taken is the only option added. -/
theorem flag_ok (h : r.flag a = .ok r') : r.Grows r' (· = a) := by
  unfold flag at h
  obtain ⟨r₁, hresolve, hflag⟩ := exists_ok_of_bind h
  have hgrows := (resolve_ok hresolve).mono fun b (hb : False) => (hb.elim : b = a)
  split at hflag
  · cases hflag
  · cases hflag
  · exact hgrows.trans (Grows.give hflag).1

/-- A word with two dashes adds only the option that it names. -/
theorem long_ok {name : String} {value? : Option String} {more : List String}
    (h : r.long name value? more = .ok r') : r.Grows r' (·.long = name) := by
  unfold long at h
  -- No such name, a value behind the equals sign, one still to come, a flag with a value, a flag.
  split at h
  · cases h
  · rename_i a hfound
    have hname : a.long = name := by simpa using List.find?_some hfound
    have hle (b : Argument) (hb : b = a) : b.long = name := by rw [hb, hname]
    split at h
    · exact (option_ok h).1.mono hle
    · exact (await_ok h).mono hle
    · cases h
    · exact (flag_ok h).mono hle

/-- Letters behind a dash add only options that have letters. -/
theorem shorts_ok {cs : List Char} (h : r.shorts cs = .ok r') :
    r.Grows r' (·.short? ≠ none) := by
  induction cs generalizing r with
  | nil =>
    cases h
    exact .refl _ _
  | cons c cs ih =>
    unfold shorts at h
    split at h
    · cases h
    · rename_i a hfound
      have hletter : a.short? = some c := by simpa using List.find?_some hfound
      have hle (b : Argument) (hb : b = a) : b.short? ≠ none := by simp [hb, hletter]
      split at h
      · -- What stands behind a letter with a value is this value, if it is not still to come.
        split at h
        · exact (await_ok h).mono hle
        · exact (option_ok h).1.mono hle
        · exact (option_ok h).1.mono hle
      · obtain ⟨r₁, hflag, hmore⟩ := exists_ok_of_bind h
        exact ((flag_ok hflag).mono hle).trans (ih hmore)

/-! ## Words -/

/-- The name stands in front of the first equals sign, or there is none. -/
theorem eq_of_splitEquals {s : List Char} {name : String} (h : (splitEquals s).1 = name) :
    s = name.toList ∨ ∃ value, s = name.toList ++ '=' :: value := by
  have hsplit := List.takeWhile_append_dropWhile (p := (· ≠ '=')) (l := s)
  unfold splitEquals at h
  split at h
  · rw [← h, String.toList_ofList]
    exact .inl rfl
  · rename_i c value hdrop
    -- What stops the name can only be an equals sign.
    have hc : c = '=' := by
      have hhead := List.head?_dropWhile_not (· ≠ '=') s
      rw [hdrop] at hhead
      simpa using hhead
    subst hc
    refine .inr ⟨value, ?_⟩
    rw [← h, String.toList_ofList, ← hdrop, hsplit]

/-- A word sets only arguments that have letters, or one that it gives by its name. -/
theorem dashed?_ok {w : String} {more : List String} (h : r.dashed? w.toList more = some (.ok r')) :
    r.Grows r' fun a => a.short? ≠ none ∨ a.NamedBy w := by
  unfold dashed? at h
  split at h
  -- Behind two dashes stands a name, and perhaps an equals sign with a value.
  · rename_i name hw
    apply (long_ok (Option.some.inj h)).mono
    intro a ha
    right
    rcases eq_of_splitEquals ha.symm with hname | ⟨value, hname⟩
    · left
      apply String.toList_inj.mp
      simp [hw, hname]
    · right
      refine ⟨String.ofList value, ?_⟩
      apply String.toList_inj.mp
      simp [hw, hname, Argument.toList_word]
  · exact (shorts_ok (Option.some.inj h)).mono fun _ => .inl
  · cases h

/-- An option with its value is read under its name. -/
theorem dashed?_word (r : Reading) (a : Argument) (value : String) (more : List String) :
    r.dashed? (a.word value).toList more = some (r.long a.long (some value) more) := by
  simp only [Argument.toList_word, dashed?, splitEquals_append (long_ne a).1,
    String.ofList_toList]

/-- An option and its value in one word are read at once. -/
theorem long_value_ok {more : List String} (htakes : a.takesValue = true)
    (h : r.long a.long (some value) more = .ok r') :
    a ∈ r.scope.arguments ∧ ∃ v, a.read value = .ok v ∧ r'.settings a = some v := by
  unfold long at h
  split at h
  · cases h
  · rename_i b hfound
    obtain rfl : b = a := Argument.long_injective (by simpa using List.find?_some hfound)
    simp only [htakes] at h
    exact ⟨List.mem_of_find?_eq_some hfound, (option_ok h).2⟩

/-! ## Variables -/

/-- Variables of arguments without a value are read, and what is set stays as it is. -/
theorem readVariables_ok {env : Environment} {as : List Argument}
    (h : readVariables env r as = .ok r') :
    (∀ b v, r.settings b = some v → r'.settings b = some v) ∧
      ∀ b ∈ as, r.settings b = none → ∀ text, env.text? b = some text →
        ∃ v, b.read text = .ok v ∧ r'.settings b = some v := by
  induction as generalizing r with
  | nil =>
    cases h
    exact ⟨fun _ _ hv => hv, nofun⟩
  | cons a as ih =>
    -- The first variable is read, or `r` goes on as it is.
    have hkept (hrest : readVariables env r as = .ok r')
        (hnot : r.settings a = none → env.text? a = none) :
        (∀ b v, r.settings b = some v → r'.settings b = some v) ∧
          ∀ b ∈ a :: as, r.settings b = none → ∀ text, env.text? b = some text →
            ∃ v, b.read text = .ok v ∧ r'.settings b = some v := by
      obtain ⟨hkeeps, hread⟩ := ih hrest
      refine ⟨hkeeps, fun b hb hnone text htext => ?_⟩
      rcases List.mem_cons.mp hb with rfl | hb
      · rw [hnot hnone] at htext
        cases htext
      · exact hread b hb hnone text htext
    rw [readVariables] at h
    split at h
    · rename_i value htext
      split at h
      · rename_i hhas
        apply hkept h
        intro hnone
        simp [Settings.has, hnone] at hhas
      · obtain ⟨r₁, hgive, hrest⟩ := exists_ok_of_bind h
        obtain ⟨hgrows, v, hv, hset⟩ := Grows.give hgive
        obtain ⟨hkeeps, hread⟩ := ih hrest
        refine ⟨fun b w hw => hkeeps b w (hgrows.keeps b w hw), fun b hb hnone text ht => ?_⟩
        by_cases hba : b = a
        · subst hba
          obtain rfl : value = text := Option.some.inj (htext.symm.trans ht)
          exact ⟨v, hv, hkeeps _ _ hset⟩
        · obtain ⟨v', -, -, rfl⟩ := give_ok hgive
          apply hread b ((List.mem_cons.mp hb).resolve_left hba) _ text ht
          exact (Settings.insert_of_ne _ _ (Ne.symm hba)).trans hnone
    · rename_i htext
      exact hkept h fun _ => htext

/-- At the end no argument is without a value that its variable has. -/
theorem finish_ok {env : Environment} {t : Settings} (h : r.finish env = .ok t) :
    (∀ b v, r.settings b = some v → t b = some v) ∧
      ∀ b ∈ r.scope.ownArguments, r.Lacks b → ∀ text, env.text? b = some text →
        ∃ v, b.read text = .ok v ∧ t b = some v := by
  unfold finish at h
  obtain ⟨r₁, hresolve, hrest⟩ := exists_ok_of_bind h
  obtain ⟨r₂, hread, hsettings⟩ := exists_ok_of_bind hrest
  obtain rfl : r₂.settings = t := Except.ok.inj hsettings
  have hgrows := resolve_ok hresolve
  obtain ⟨hkeeps, hvariables⟩ := readVariables_ok hread
  refine ⟨fun b v hv => hkeeps b v (hgrows.keeps b v hv), fun b hb hlacks text htext => ?_⟩
  exact hvariables b hb (hgrows.lacks b id hlacks).settings text htext

end

end Reading

/-! ## Commands -/

section

open Reading

variable {env : Environment} {r r' : Reading} {t : Settings} {more : List String}

/-- What the settings of a command have to do with its words and its variables. -/
structure Understood (env : Environment) (r : Reading) (args : List String) (t : Settings) :
    Prop where
  keeps : ∀ a v, r.settings a = some v → t a = some v
  given : ∀ a text, a.takesValue = true → a.word text ∈ args →
    a ∈ r.scope.arguments ∧ ∃ v, a.read text = .ok v ∧ t a = some v
  absent : ∀ a ∈ r.scope.ownArguments, a.short? = none → r.Lacks a →
    (∀ w ∈ args, ¬ a.NamedBy w) → ∀ text, env.text? a = some text →
      ∃ v, a.read text = .ok v ∧ t a = some v

/-- A line without words is understood where the reading can be finished. -/
theorem Understood.nil (h : r.finish env = .ok t) : Understood env r [] t where
  keeps := (finish_ok h).1
  given := nofun
  absent a ha _ hlacks _ := (finish_ok h).2 a ha hlacks

/-- A word in front is understood if it is read, and if what it gives is set after it. -/
theorem Understood.cons {w : String} (h : Understood env r' more t)
    (hgrows : r.Grows r' fun a => a.short? ≠ none ∨ a.NamedBy w)
    (hword : ∀ a text, a.takesValue = true → w = a.word text →
      a ∈ r.scope.arguments ∧ ∃ v, a.read text = .ok v ∧ r'.settings a = some v) :
    Understood env r (w :: more) t where
  keeps a v hv := h.keeps a v (hgrows.keeps a v hv)
  given a text htakes hmem := by
    rcases List.mem_cons.mp hmem with heq | hmem
    · obtain ⟨hscope, v, hv, hset⟩ := hword a text htakes heq.symm
      exact ⟨hscope, v, hv, h.keeps a v hset⟩
    · rw [← hgrows.scope]
      exact h.given a text htakes hmem
  absent a ha hshort hlacks hnamed := by
    apply h.absent a (by rwa [hgrows.scope]) hshort
    · apply hgrows.lacks a _ hlacks
      rintro (hletter | hname)
      · exact hletter hshort
      · exact hnamed w List.mem_cons_self hname
    · exact fun w hw => hnamed w (List.mem_cons_of_mem _ hw)

/-- A command line of a command that is read to its end is understood as a whole. -/
theorem understood_of_readCommand {args : List String} (h : readCommand env r args = .ok t) :
    Understood env r args t := by
  induction args generalizing r with
  | nil =>
    rw [readCommand.eq_def] at h
    exact .nil h
  | cons w more ih =>
    rw [readCommand.eq_def] at h
    dsimp only at h
    split at h
    · rename_i hdashes
      subst hdashes
      cases more with
      | nil =>
        -- Two dashes end the options and name none.
        apply (Understood.nil h).cons (.refl r _)
        intro a text _ heq
        exact absurd heq.symm (a.word_ne text)
      | cons extra more => cases h
    · split at h
      · rename_i next hnext
        obtain ⟨r₁, rfl, hmore⟩ := exists_ok_of_bind h
        apply (ih hmore).cons (dashed?_ok hnext)
        rintro a text htakes rfl
        rw [dashed?_word] at hnext
        exact long_value_ok htakes (Option.some.inj hnext)
      · rename_i hnone
        split at h
        · rename_i a hpending
          apply (ih h).cons
          · -- The value is kept for the argument that waits for it.
            refine ⟨rfl, fun _ _ hv => hv, fun b _ hlacks => ⟨hlacks.settings, fun value heq => ?_⟩⟩
            have hba : a = b := congrArg Prod.fst (Option.some.inj heq)
            subst hba
            exact hlacks.pending _ hpending
          · rintro b text - rfl
            rw [dashed?_word] at hnone
            cases hnone
        · cases h

/-! ## The whole command line -/

/-- An option with its value is no command. -/
theorem command?_word (a : Argument) (text : String) : Scope.command? (a.word text) = none := by
  rw [Scope.command?, List.find?_eq_none]
  intro c _ hword
  have hdash : (a.word text).toList.head? = some '-' := by rw [a.toList_word, List.head?_cons]
  rw [← of_decide_eq_true hword] at hdash
  revert hdash
  cases c <;> decide

/-- A command with the words behind it, where all that the program itself does not know is among
    these words. -/
structure Called (env : Environment) (args : List String) (i : Invocation) (c : Scope)
    (more : List String) : Prop where
  command : c = .discover ∨ c = .monitor
  settings : ∃ outer inner, readCommand env { scope := c } more = .ok inner ∧
    i = invocation outer inner c
  behind : ∀ w ∈ more, w ∈ args
  words : ∀ a text, a ∉ Scope.program.arguments → a.takesValue = true → a.word text ∈ args →
    a.word text ∈ more

/-- A word in front that is no option of the command leaves open which command is called. -/
theorem Called.cons {args : List String} {i : Invocation} {c : Scope} (h : Called env args i c more)
    {w : String} (hword : ∀ a text, a ∉ Scope.program.arguments → a.takesValue = true →
      a.word text ≠ w) : Called env (w :: args) i c more where
  command := h.command
  settings := h.settings
  behind w hw := List.mem_cons_of_mem _ (h.behind w hw)
  words a text hprogram htakes hmem := by
    apply h.words a text hprogram htakes
    exact (List.mem_cons.mp hmem).resolve_left (hword a text hprogram htakes)

/-- A command line that is understood has a command. -/
theorem called_of_readProgram {args : List String} {i : Invocation}
    (h : readProgram env r args = .ok i) (hscope : r.scope = .program) :
    ∃ c more, Called env args i c more := by
  fun_induction readProgram env r args with
  | case1 => cases h
  | case2 r w more hcommand =>
    obtain ⟨topic, -, hthrow⟩ := exists_ok_of_bind h
    cases hthrow
  | case3 r w more c hcommand hhelp =>
    obtain ⟨inner, hread, hinvocation⟩ := exists_ok_of_bind h
    have hmem : c ∈ Scope.commands := List.mem_of_find?_eq_some hhelp
    -- The third command asks for help, and was dealt with before.
    have hc : c = .discover ∨ c = .monitor := by
      simp only [Scope.commands, List.mem_cons, List.not_mem_nil, or_false] at hmem
      rcases hmem with hc | hc | hc
      · exact .inl hc
      · exact .inr hc
      · exact absurd hc hcommand
    have hcalled : Called env more i c more :=
      ⟨hc, ⟨_, inner, hread, (Except.ok.inj hinvocation).symm⟩, fun _ hw => hw,
        fun _ _ _ _ hw => hw⟩
    refine ⟨c, more, hcalled.cons ?_⟩
    rintro a text - - rfl
    rw [command?_word] at hhelp
    cases hhelp
  | case4 r hcommand ih =>
    obtain ⟨c, more, hcalled⟩ := ih h hscope
    exact ⟨c, more, hcalled.cons fun a text _ _ => a.word_ne text⟩
  | case5 => cases h
  | case6 r w more hcommand hne next hnext ih =>
    obtain ⟨r₁, rfl, hmore⟩ := exists_ok_of_bind h
    obtain ⟨c, behind, hcalled⟩ := ih r₁ hmore ((dashed?_ok hnext).scope.trans hscope)
    refine ⟨c, behind, hcalled.cons ?_⟩
    -- What is read in front of the command is an argument of the program itself.
    rintro a text hprogram htakes rfl
    rw [dashed?_word] at hnext
    apply hprogram
    rw [← hscope]
    exact (long_value_ok htakes (Option.some.inj hnext)).1
  | case7 => cases h

end

end LossProbe.CommandLine

namespace LossProbe

/-- Where the options of a command are looked for. -/
def Command.scope : Command → CommandLine.Scope
  | discover _ => .discover
  | monitor _ _ => .monitor

namespace CommandLine

section

variable {env : Environment} {args : List String} {i : Invocation} {a : Argument}

/-- The invocation that is made of the options is one of the command that was called. -/
theorem scope_invocation (outer inner : Settings) {c : Scope} (hc : c = .discover ∨ c = .monitor) :
    (invocation outer inner c).command.scope = c := by
  rcases hc with rfl | rfl <;> rfl

/-- An option that is given with its value in one word is read, and its value is its setting. -/
theorem read_of_word_mem (h : parse env args = .ok i) (htakes : a.takesValue = true) {text : String}
    (hmem : a.word text ∈ args) : a.read text = .ok (i.setting a) := by
  obtain ⟨c, more, hcalled⟩ := called_of_readProgram h rfl
  obtain ⟨outer, inner, hread, rfl⟩ := hcalled.settings
  -- The program's own arguments take no value.
  have hprogram : a ∉ Scope.program.arguments := by
    revert htakes
    cases a <;> decide
  obtain ⟨hscope, v, hv, hset⟩ := (understood_of_readCommand hread).given a text htakes
    (hcalled.words a text hprogram htakes hmem)
  have hown : a ∈ c.ownArguments := by
    apply (List.mem_append.mp hscope).resolve_right
    revert htakes
    cases a <;> decide
  rw [setting_invocation outer inner hcalled.command hown, hset, Option.getD_some, hv]

/-- The variable of an option that is not given is read, and its value is the setting. -/
theorem read_of_text?_eq (h : parse env args = .ok i) (hown : a ∈ i.command.scope.ownArguments)
    (hshort : a.short? = none) (hnamed : ∀ w ∈ args, ¬ a.NamedBy w) {text : String}
    (htext : env.text? a = some text) : a.read text = .ok (i.setting a) := by
  obtain ⟨c, more, hcalled⟩ := called_of_readProgram h rfl
  obtain ⟨outer, inner, hread, rfl⟩ := hcalled.settings
  rw [scope_invocation outer inner hcalled.command] at hown
  obtain ⟨v, hv, hset⟩ := (understood_of_readCommand hread).absent a hown hshort
    ⟨rfl, nofun⟩ (fun w hw => hnamed w (hcalled.behind w hw)) text htext
  rw [setting_invocation outer inner hcalled.command hown, hset, Option.getD_some, hv]

end

/-! ## Command lines that are valid otherwise -/

/-- A command line without an option of its command, where all but the option's own variable is
    valid. -/
structure ValidBut (env : Environment) (c : Scope) (before after : List Written) (a : Argument) :
    Prop where
  command : c = .discover ∨ c = .monitor
  own : a ∈ c.ownArguments
  front : Arranged Scope.program.settable before
  behind : Arranged c.settable after
  absent : a ∉ after.map Written.argument
  others : ∀ b ∈ c.ownArguments, b ≠ a → b ∉ after.map Written.argument →
    ∀ text, env.text? b = some text → ∃ v, b.read text = .ok v

/-- An option that was not written yet can be put among the others anywhere. -/
theorem Arranged.insert {allowed : List Argument} {front back : List Written} {w : Written}
    (h : Arranged allowed (front ++ back)) (hw : w.Proper) (hallowed : w.argument ∈ allowed)
    (hnew : w.argument ∉ (front ++ back).map Written.argument) :
    Arranged allowed (front ++ w :: back) := by
  have hperm : (front ++ w :: back).Perm (w :: (front ++ back)) := List.perm_middle
  refine ⟨fun u hu => ?_, fun u hu => ?_, ?_⟩
  · rcases List.mem_cons.mp (hperm.mem_iff.mp hu) with rfl | hu
    · exact hw
    · exact h.proper u hu
  · rcases List.mem_cons.mp (hperm.mem_iff.mp hu) with rfl | hu
    · exact hallowed
    · exact h.allowed u hu
  · rw [(hperm.map Written.argument).nodup_iff]
    exact List.nodup_cons.mpr ⟨hnew, h.once⟩

section

open Reading

variable {env : Environment} {c : Scope} {before front back after : List Written} {a : Argument}
  {text : String} {v : a.Value}

/-- Each text that an option reads is taken wherever it stands, with or without letters. -/
theorem ValidBut.parse_word (h : ValidBut env c before (front ++ back) a)
    (htakes : a.takesValue = true) (hallows : a.Allows v) (hread : a.read text = .ok v) :
    ∃ i, parse env (before.flatMap Written.words ++
        c.word :: (front.flatMap Written.words ++ a.word text :: back.flatMap Written.words)) =
      .ok i ∧ i.setting a = v := by
  let w : Written := ⟨a, v, false, .equals⟩
  have hproper : w.Proper := ⟨hallows, nofun, nofun, fun _ => rfl⟩
  have hsettable : a ∈ c.settable := List.mem_append_left _ h.own
  have harranged := h.behind.insert hproper hsettable h.absent
  have hfront : Arranged c.settable ([] ++ front) :=
    ⟨fun u hu => h.behind.proper u (List.mem_append_left _ hu),
      fun u hu => h.behind.allowed u (List.mem_append_left _ hu),
      (List.nodup_append.mp (List.map_append ▸ h.behind.once)).1⟩
  -- The option stands between the words in front of it and those behind it.
  obtain ⟨r₁, hholds₁, hread₁⟩ := readCommand_flatMap env
    (a.word text :: back.flatMap Written.words) (holds_mk c [] []) hfront
  obtain ⟨r₂, hoption, hholds₂⟩ := hholds₁.option (w := w) hread harranged.not_mem
  have hword : r₁.dashed? (a.word text).toList (back.flatMap Written.words) = some (.ok r₂) := by
    rw [← hoption]
    exact dashed?_equals (w := w) hholds₁.scope (of_mem_settable hsettable).1 hproper htakes text
  have hback : Arranged c.settable ([] ++ front ++ [w] ++ back) := by simpa using harranged
  obtain ⟨r₃, hholds₃, hread₃⟩ := readCommand_flatMap env [] hholds₂ hback
  rw [List.append_nil, readCommand.eq_def env r₃] at hread₃
  have hmem : w ∈ [] ++ front ++ [w] ++ back := by simp
  have hsubset : front ++ back ⊆ [] ++ front ++ [w] ++ back := by
    intro u hu
    rcases List.mem_append.mp hu with hu | hu <;> simp [hu]
  -- What the environment holds for options that are not written is readable by assumption.
  have hothers : ∀ b ∈ c.ownArguments, b ∉ ([] ++ front ++ [w] ++ back).map Written.argument →
      ∀ t, env.text? b = some t → ∃ v, b.read t = .ok v := by
    intro b hb hnot
    apply h.others b hb
    · rintro rfl
      exact hnot (List.mem_map_of_mem hmem)
    · exact fun hb => hnot (List.map_subset _ hsubset hb)
  obtain ⟨inner, hparse, hinner⟩ := parse_of_holds h.command h.front hholds₃
    (hread₁.trans ((readCommand_cons (a.word_ne text) hword).trans hread₃)) hback.once hothers
  refine ⟨_, hparse, ?_⟩
  rw [setting_invocation _ _ h.command h.own, hinner,
    show Settings.ofWritten _ a = some v from Settings.ofWritten_of_mem hmem hback.once]
  rfl

/-- So is each such text that the variable has. -/
theorem ValidBut.parse_variable (h : ValidBut env c before after a) (hread : a.read text = .ok v)
    (htext : env.text? a = some text) :
    ∃ i, parse env (before.flatMap Written.words ++ c.word :: after.flatMap Written.words) = .ok i ∧
      i.setting a = v := by
  have hvariables : ∀ b ∈ c.ownArguments, b ∉ after.map Written.argument →
      ∀ t, env.text? b = some t → ∃ v, b.read t = .ok v := by
    intro b hb hnot t ht
    -- The variable of `a` is the one that reads as `v`, and the others are valid by assumption.
    by_cases hba : b = a
    · subst hba
      obtain rfl : text = t := Option.some.inj (htext.symm.trans ht)
      exact ⟨v, hread⟩
    · exact h.others b hb hba hnot t ht
  obtain ⟨inner, hparse, hinner⟩ := parse_words h.command h.front h.behind hvariables
  refine ⟨_, hparse, ?_⟩
  rw [setting_invocation _ _ h.command h.own, hinner, Settings.ofWritten_of_not_mem h.absent,
    if_pos h.own, Environment.value?, htext]
  simp [hread, Except.toOption]

end

/-! ## Numbers -/

/-- A numeric option takes a value, and has no letter. -/
theorem Argument.of_numberRule? {a : Argument} {rule : NumberRule} (h : a.numberRule? = some rule) :
    a.takesValue = true ∧ a.short? = none := by
  cases a <;> first | exact ⟨rfl, rfl⟩ | cases h

/-- A number that the rule accepts may be the value of the option. -/
theorem Argument.allows_of_accepts {a : Argument} {rule : NumberRule}
    (h : a.numberRule? = some rule) {v : a.Value} {text : String}
    (haccepts : rule.Accepts text (a.number v)) : a.Allows v := by
  cases a <;> cases h
  case lossThreshold =>
    obtain ⟨t, -, -, -, hleast, -⟩ := haccepts
    rintro rfl
    exact absurd hleast (by decide)
  all_goals trivial

/-- An option with numbers takes exactly the texts of its numbers. If any other text stands behind
    its equals sign, or is what its variable has while the option is not given, then the command
    line is not understood, whatever else there is in it. The text of a number is taken in either
    place, where all else is valid, and the number is the setting of the option. -/
theorem numeric_options {a : Argument} {rule : NumberRule} (hrule : a.numberRule? = some rule)
    (text : String) :
    (∀ env args i, a.word text ∈ args → parse env args = .ok i →
      rule.Accepts text (a.number (i.setting a))) ∧
    (∀ env args i, parse env args = .ok i → a ∈ i.command.scope.ownArguments →
      (∀ w ∈ args, ¬ a.NamedBy w) → env.text? a = some text →
      rule.Accepts text (a.number (i.setting a))) ∧
    ∀ n, rule.Accepts text n → ∀ env c before front back,
      ValidBut env c before (front ++ back) a →
      (∃ i, parse env (before.flatMap Written.words ++
          c.word :: (front.flatMap Written.words ++ a.word text :: back.flatMap Written.words)) =
        .ok i ∧ a.number (i.setting a) = n) ∧
      (env.text? a = some text →
        ∃ i, parse env (before.flatMap Written.words ++
            c.word :: (front ++ back).flatMap Written.words) =
          .ok i ∧ a.number (i.setting a) = n) := by
  obtain ⟨htakes, hshort⟩ := Argument.of_numberRule? hrule
  refine ⟨fun env args i hmem h => ?_, fun env args i h hown hnamed htext => ?_,
    fun n haccepts env c before front back hvalid => ?_⟩
  · exact (Argument.read_eq_ok_iff hrule).mp (read_of_word_mem h htakes hmem)
  · exact (Argument.read_eq_ok_iff hrule).mp (read_of_text?_eq h hown hshort hnamed htext)
  · -- A number that is accepted is the value of some text, written or from the environment.
    obtain ⟨-, -, -, -, -, hgreatest⟩ := id haccepts
    obtain ⟨v, rfl⟩ := Argument.exists_value hrule hgreatest
    have hread : a.read text = .ok v := (Argument.read_eq_ok_iff hrule).mpr haccepts
    have hallows := Argument.allows_of_accepts hrule haccepts
    constructor
    · obtain ⟨i, hparse, hsetting⟩ := hvalid.parse_word htakes hallows hread
      exact ⟨i, hparse, by rw [hsetting]⟩
    · intro htext
      obtain ⟨i, hparse, hsetting⟩ := hvalid.parse_variable hread htext
      exact ⟨i, hparse, by rw [hsetting]⟩

/-- Zero with a minus is a port, from the command line and from the variable, and no time. -/
theorem numeric_options_of_minus_zero :
    let env : Environment := fun name => if name = "FSA_DISCOVERY_PORT" then some "-0" else none
    Argument.port.numberRule? = some ⟨0, 2 ^ 16 - 1, true⟩ ∧
      NumberRule.Accepts ⟨0, 2 ^ 16 - 1, true⟩ "-0" 0 ∧ ValidBut env .discover [] [] .port ∧
      (∃ i, parse env ["discover", "--port=-0"] = .ok i ∧ i.setting .port = (0 : UInt16)) ∧
      (∃ i, parse env ["discover"] = .ok i ∧ i.setting .port = (0 : UInt16)) ∧
      ∀ i, parse env ["discover", "--discovery-timeout-ms=-0"] ≠ .ok i := by
  intro env
  have haccepts : NumberRule.Accepts ⟨0, 2 ^ 16 - 1, true⟩ "-0" 0 :=
    ⟨⟨some true, ⟨0, []⟩⟩, rfl, fun _ => rfl, rfl, by decide, by decide⟩
  have hvalid : ValidBut env .discover [] [] .port := by
    refine ⟨.inl rfl, by decide, ⟨nofun, nofun, .nil⟩, ⟨nofun, nofun, .nil⟩, nofun, ?_⟩
    intro b _ hb _ text htext
    cases b with
    | port => exact absurd rfl hb
    | _ => cases htext
  obtain ⟨-, -, htaken⟩ := numeric_options (a := .port) rfl "-0"
  obtain ⟨hword, hvariable⟩ := htaken 0 haccepts env .discover [] [] [] hvalid
  obtain ⟨i, hparse, hnumber⟩ := hword
  obtain ⟨i', hparse', hnumber'⟩ := hvariable rfl
  refine ⟨rfl, haccepts, hvalid, ⟨i, hparse, UInt16.toNat_inj.mp hnumber⟩,
    ⟨i', hparse', UInt16.toNat_inj.mp hnumber'⟩, fun i h => ?_⟩
  -- Where no minus is allowed the same text is refused.
  obtain ⟨hrefused, -⟩ := numeric_options (a := .discoveryTimeout) rfl "-0"
  obtain ⟨⟨sign, d⟩, hchars, hminus, -⟩ := hrefused env _ i (List.mem_cons_of_mem _ (.head _)) h
  match sign with
  | none => exact cons_ne_chars (by decide) d hchars
  | some false => exact absurd (List.cons.inj hchars).1 (by decide)
  | some true => cases hminus rfl

end CommandLine

end LossProbe
