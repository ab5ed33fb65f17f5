import Disassembly.CommandLine.Arguments
import Disassembly.Proofs.Text.Words

/-!
Argument lists made of settings. A setting names an architecture, in one argument or in two, or turns a
switch on. Settings may come in any order and number, also around an input, and are understood one by
one: the last architecture counts, and a switch that is on stays on. Whether an input is given makes no
difference to the settings.
-/

namespace Disassembly.Architecture

open Text

/-- No accepted name starts with a hyphen, so that none looks like an option. -/
theorem head_of_ofName {given : List Char} {architecture : Architecture}
    (accepted : ofName given = .ok architecture) : given.head? ≠ some '-' := by
  intro hyphen
  obtain ⟨rest, rfl⟩ := List.head?_eq_some_iff.mp hyphen
  have stripped : ∃ more, strip ('-' :: rest) = '-' :: more := by
    have left : stripLeft ('-' :: rest) = '-' :: rest := rfl
    obtain ⟨removed, whole⟩ := stripRight_isPrefix ('-' :: rest)
    rw [strip, left]
    cases kept : stripRight ('-' :: rest) with
    | nil =>
        have blank := isBlank_of_words_eq_nil (by rw [← words_strip, strip, left, kept, words_nil])
          '-' (by simp)
        exact absurd blank (by decide)
    | cons first more =>
        rw [kept] at whole
        exact ⟨more, by rw [(List.cons.inj whole).1]⟩
  obtain ⟨more, stripped⟩ := stripped
  have normalized : ∃ later, normalize ('-' :: rest) = '_' :: later := by
    rw [normalize, stripped]
    exact ⟨_, rfl⟩
  obtain ⟨later, normalized⟩ := normalized
  have noAlias : ∀ entry ∈ aliases, (entry.1.toList == '_' :: later) = false := by
    intro entry member
    have otherwise : ∀ entry ∈ aliases, ∀ first ∈ entry.1.toList.head?, first ≠ '_' := by decide
    apply beq_eq_false_iff_ne.mpr
    intro same
    exact otherwise entry member '_' (by rw [same]; rfl) rfl
  have nothing : aliases.find? (fun entry => entry.1.toList == normalize ('-' :: rest)) = none := by
    rw [List.find?_eq_none, normalized]
    intro entry member
    simp [noAlias entry member]
  rw [ofName, nothing] at accepted
  cases accepted

end Disassembly.Architecture

namespace Disassembly.CommandLine

inductive Setting where
  /-- The name is behind an equals sign or an argument of its own. -/
  | architecture (name : List Char) (joined : Bool)
  | describe
  | verbose
deriving DecidableEq, Repr

namespace Setting

def arguments : Setting → List (List Char)
  | .architecture name true => ["--arch=".toList ++ name]
  | .architecture name false => ["--arch".toList, name]
  | .describe => ["--describe".toList]
  | .verbose => ["--verbose".toList]

def Accepted : Setting → Prop
  | .architecture name _ => ∃ architecture, Architecture.ofName name = .ok architecture
  | .describe | .verbose => True

def apply (understood : Understood) : Setting → Understood
  | .architecture name _ =>
      match Architecture.ofName name with
      | .ok named => { understood with architecture := named }
      | .error _ => understood
  | .describe => { understood with describe := true }
  | .verbose => { understood with verbose := true }

def written (settings : List Setting) : List (List Char) := settings.flatMap arguments

def applyAll (understood : Understood) (settings : List Setting) : Understood :=
  settings.foldl apply understood

def options (settings : List Setting) (input : List Char) : Options :=
  let chosen := applyAll Understood.nothing settings
  ⟨input, chosen.architecture, chosen.describe, chosen.verbose⟩

end Setting

open Setting

theorem shape_of_head {argument : List Char} (noOption : argument.head? ≠ some '-') :
    shape argument = .positional := by
  rw [shape, startsWithHyphen, decide_eq_false noOption]
  rfl

theorem ne_endOfOptions {argument : List Char} (positional : shape argument = .positional) :
    argument ≠ endOfOptions := by
  rintro rfl
  exact absurd positional (by decide)

/-! Finding the places. -/

/-- A setting finds its place whatever has been understood before. -/
theorem place_arguments {setting : Setting} (accepted : setting.Accepted)
    (understood : Understood) (rest : List (List Char)) :
    place understood (setting.arguments ++ rest) = place (setting.apply understood) rest := by
  cases setting with
  | describe => rfl
  | verbose => rfl
  | architecture name joined =>
      obtain ⟨architecture, named⟩ := accepted
      have isPositional := shape_of_head (Architecture.head_of_ofName named)
      rw [apply, named]
      cases joined with
      | true =>
          have ownShape : shape ("--arch=".toList ++ name) = .option .architecture (some name) := rfl
          have goesOn : "--arch=".toList ++ name ≠ endOfOptions := by
            intro same
            have lengths := congrArg List.length same
            simp [endOfOptions] at lengths
          rw [arguments, List.singleton_append, place.eq_def]
          simp only [if_neg goesOn, ownShape, named]
      | false =>
          have ownShape : shape "--arch".toList = .option .architecture none := rfl
          have goesOn : "--arch".toList ≠ endOfOptions := by decide
          rw [arguments, List.cons_append, List.singleton_append, place.eq_def]
          simp only [if_neg goesOn, ownShape, ne_endOfOptions isPositional, isPositional, named]
          rfl

theorem place_written {settings : List Setting} (accepted : ∀ setting ∈ settings, setting.Accepted)
    (understood : Understood) (rest : List (List Char)) :
    place understood (written settings ++ rest) = place (applyAll understood settings) rest := by
  induction settings generalizing understood with
  | nil => rfl
  | cons setting settings induction =>
      obtain ⟨first, later⟩ := List.forall_mem_cons.mp accepted
      rw [written, List.flatMap_cons, List.append_assoc, place_arguments first]
      exact induction later (setting.apply understood)

/-- Two hyphens do not start a setting, so that those behind an input are not taken with it. -/
theorem head_written (settings : List Setting) :
    (written settings).head? ≠ some endOfOptions := by
  cases settings with
  | nil => simp [written]
  | cons setting settings =>
      intro same
      cases setting with
      | architecture name joined =>
          cases joined with
          | true =>
              have equal := Option.some.inj same
              have lengths := congrArg List.length equal
              simp [endOfOptions] at lengths
          | false => exact absurd (Option.some.inj same) (by decide)
      | describe => exact absurd (Option.some.inj same) (by decide)
      | verbose => exact absurd (Option.some.inj same) (by decide)

theorem place_input {name : List Char} (positional : shape name = .positional)
    {understood : Understood} (free : understood.input = none) (settings : List Setting) :
    place understood (name :: written settings) =
      place { understood with input := some name } (written settings) := by
  have inputless : understood.input.isSome = false := by
    rw [free]
    rfl
  rw [place.eq_def]
  simp only [if_neg (ne_endOfOptions positional), positional, inputless, head_written settings]
  rfl

/-! What the places amount to. -/

theorem apply_input (understood : Understood) (input : Option (List Char)) (setting : Setting) :
    setting.apply { understood with input := input } =
      { setting.apply understood with input := input } := by
  cases setting with
  | architecture name joined =>
      simp only [apply]
      cases Architecture.ofName name <;> rfl
  | describe => rfl
  | verbose => rfl

theorem applyAll_input (understood : Understood) (input : Option (List Char))
    (settings : List Setting) :
    applyAll { understood with input := input } settings =
      { applyAll understood settings with input := input } := by
  induction settings generalizing understood with
  | nil => rfl
  | cons setting settings induction =>
      rw [applyAll, List.foldl_cons, apply_input]
      exact induction (setting.apply understood)

theorem applyAll_append (understood : Understood) (before after : List Setting) :
    applyAll understood (before ++ after) = applyAll (applyAll understood before) after :=
  List.foldl_append

theorem apply_unplaced (understood : Understood) (setting : Setting) :
    (setting.apply understood).input = understood.input ∧
      (setting.apply understood).excess = understood.excess := by
  cases setting with
  | architecture name joined =>
      simp only [apply]
      cases Architecture.ofName name <;> exact ⟨rfl, rfl⟩
  | describe => exact ⟨rfl, rfl⟩
  | verbose => exact ⟨rfl, rfl⟩

theorem applyAll_unplaced (understood : Understood) (settings : List Setting) :
    (applyAll understood settings).input = understood.input ∧
      (applyAll understood settings).excess = understood.excess := by
  induction settings generalizing understood with
  | nil => exact ⟨rfl, rfl⟩
  | cons setting settings induction =>
      have first := apply_unplaced understood setting
      have later := induction (setting.apply understood)
      exact ⟨later.1.trans first.1, later.2.trans first.2⟩

/-! Whole argument lists. -/

/-- Nothing in a setting could be short for several options. -/
theorem shape_arguments {setting : Setting} (accepted : setting.Accepted) :
    ∀ argument ∈ setting.arguments, shape argument ≠ .ambiguous := by
  cases setting with
  | describe => decide
  | verbose => decide
  | architecture name joined =>
      obtain ⟨architecture, named⟩ := accepted
      intro argument member
      cases joined with
      | true =>
          have ownShape : shape ("--arch=".toList ++ name) = .option .architecture (some name) := rfl
          rw [List.mem_singleton.mp member, ownShape]
          exact Shape.noConfusion
      | false =>
          rcases List.mem_cons.mp member with rfl | isName
          · decide
          · rw [List.mem_singleton.mp isName, shape_of_head (Architecture.head_of_ofName named)]
            exact Shape.noConfusion

theorem shape_written {settings : List Setting}
    (accepted : ∀ setting ∈ settings, setting.Accepted) :
    ∀ argument ∈ written settings, shape argument ≠ .ambiguous := by
  intro argument member
  obtain ⟨setting, isSetting, inside⟩ := List.mem_flatMap.mp member
  exact shape_arguments (accepted setting isSetting) argument inside

theorem readArguments_of_shape {arguments : List (List Char)}
    (clear : ∀ argument ∈ arguments, shape argument ≠ .ambiguous) :
    readArguments arguments = place Understood.nothing arguments := by
  have none : (arguments.takeWhile (· != endOfOptions)).any
      (fun argument => shape argument = .ambiguous) = false := by
    rw [List.any_eq_false]
    intro argument member
    simpa using clear argument ((List.takeWhile_prefix _).mem member)
  rw [readArguments, if_neg (by rw [none]; decide)]

/-- Without an input the standard one is read. -/
theorem readArguments_written {settings : List Setting}
    (accepted : ∀ setting ∈ settings, setting.Accepted) :
    readArguments (written settings) = .run (options settings Understood.standardInput) := by
  obtain ⟨input, excess⟩ := applyAll_unplaced Understood.nothing settings
  have placed := place_written accepted Understood.nothing []
  rw [List.append_nil] at placed
  rw [readArguments_of_shape (shape_written accepted), placed, place, Understood.finish, excess,
    input]
  rfl

theorem readArguments_input {before after : List Setting}
    (accepted : ∀ setting ∈ before ++ after, setting.Accepted) {name : List Char}
    (positional : shape name = .positional) :
    readArguments (written before ++ name :: written after) =
      .run (options (before ++ after) name) := by
  obtain ⟨acceptedBefore, acceptedAfter⟩ := List.forall_mem_append.mp accepted
  have clear : ∀ argument ∈ written before ++ name :: written after, shape argument ≠ .ambiguous := by
    intro argument member
    rcases List.mem_append.mp member with inFront | member
    · exact shape_written acceptedBefore argument inFront
    · rcases List.mem_cons.mp member with rfl | behind
      · rw [positional]
        exact Shape.noConfusion
      · exact shape_written acceptedAfter argument behind
  have free := (applyAll_unplaced Understood.nothing before).1
  have placed := place_written acceptedAfter
    { applyAll Understood.nothing before with input := some name } []
  obtain ⟨_, excess⟩ := applyAll_unplaced Understood.nothing (before ++ after)
  rw [List.append_nil, applyAll_input (applyAll Understood.nothing before) (some name) after,
    ← applyAll_append] at placed
  rw [readArguments_of_shape clear, place_written acceptedBefore, place_input positional free, placed,
    place, Understood.finish]
  simp only [excess]
  rfl

end Disassembly.CommandLine
