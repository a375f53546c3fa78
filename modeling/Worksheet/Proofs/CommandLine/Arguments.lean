import Worksheet.CommandLine.Options

namespace Worksheet
namespace CommandLine

/-!
Command lines one after the other.  A command line is a row of items: options
with the values that follow them, and the document file.  An item takes the same
arguments and adds the same to the options wherever it stands; only a second
document file is refused.  So two command lines in a row ask for what they ask
for one after the other.
-/

namespace Options

variable {options before after part : Options} {arguments first second rest : List String}
  {operation : Operation} {file : String}

/-! ## Options after options -/

/-- What options ask for when more options follow them: the operations of both
in order, the mode and the settings file that were given last, and the document
file of the one that names it. -/
def followedBy (before after : Options) : Options where
  file := before.file.or after.file
  settingsFile := after.settingsFile.or before.settingsFile
  mode := after.mode.or before.mode
  operations := before.operations ++ after.operations

@[simp] theorem followedBy_default (options : Options) : options.followedBy {} = options := by
  simp [followedBy]

theorem followedBy_assoc (base before after : Options) :
    (base.followedBy before).followedBy after = base.followedBy (before.followedBy after) := by
  simp [followedBy, Option.or_assoc]

theorem add_eq_followedBy (options : Options) (operation : Operation) :
    options.add operation = options.followedBy { operations := [operation] } := by
  simp [add, followedBy]

/-- At most one of two options names a document file. -/
def OneFile (before after : Options) : Prop :=
  before.file = none ∨ after.file = none

theorem oneFile_followedBy_iff (base before after : Options) :
    OneFile (base.followedBy before) after ↔ OneFile base after ∧ OneFile before after := by
  unfold OneFile followedBy
  cases base.file <;> cases after.file <;> simp

/-! ## Items -/

/-- What an item of a command line takes and what it adds to the options.  The
values of an option are whatever follows it. -/
inductive Item : List String → Options → Prop where
  | print {argument : String} (named : Switch.ofArgument? argument = some .print) :
      Item [argument] { operations := [.print] }
  | recalculateAll {argument : String}
      (named : Switch.ofArgument? argument = some .recalculateAll) :
      Item [argument] { operations := [.recalculateAll] }
  | set {argument assignment : String} {operation : Operation}
      (named : Switch.ofArgument? argument = some .set)
      (assigned : Operation.ofAssignment? assignment = some operation) :
      Item [argument, assignment] { operations := [operation] }
  | copy {argument : String} (source target : String)
      (named : Switch.ofArgument? argument = some .copy) :
      Item [argument, source, target] { operations := [.copy source target] }
  | fill {argument : String} (source range : String)
      (named : Switch.ofArgument? argument = some .fill) :
      Item [argument, source, range] { operations := [.fill source range] }
  | evaluate {argument : String} (formula : String)
      (named : Switch.ofArgument? argument = some .evaluate) :
      Item [argument, formula] { operations := [.evaluate formula] }
  | output {argument : String} (path : String)
      (named : Switch.ofArgument? argument = some .output) :
      Item [argument, path] { operations := [.save path] }
  | mode {argument name : String} {mode : RecalculationMode}
      (named : Switch.ofArgument? argument = some .mode)
      (known : RecalculationMode.ofName? name = some mode) :
      Item [argument, name] { mode := some mode }
  | settings {argument : String} (path : String)
      (named : Switch.ofArgument? argument = some .settings) :
      Item [argument, path] { settingsFile := some path }
  | file {argument : String} (unnamed : Switch.ofArgument? argument = none)
      (plain : isOption argument = false) : Item [argument] { file := some argument }

/-- An item is read wherever it stands, unless it is a second document file. -/
theorem read_item (item : Item arguments part) (oneFile : OneFile options part)
    (rest : List String) :
    read options (arguments ++ rest) = read (options.followedBy part) rest := by
  cases item with
  | print named => simp [read, named, add_eq_followedBy]
  | recalculateAll named => simp [read, named, add_eq_followedBy]
  | set named assigned => simp [read, named, assigned, add_eq_followedBy]
  | copy source target named => simp [read, named, add_eq_followedBy]
  | fill source range named => simp [read, named, add_eq_followedBy]
  | evaluate formula named => simp [read, named, add_eq_followedBy]
  | output path named => simp [read, named, add_eq_followedBy]
  | mode named known => simp [read, named, known, followedBy]
  | settings path named => simp [read, named, followedBy]
  | file unnamed plain =>
    have free : options.file = none := oneFile.resolve_right (Option.some_ne_none _)
    simp [read, unnamed, plain, free, followedBy]

theorem read_second_file (item : Item arguments part) (taken : options.file.isSome)
    (named : part.file = some file) (rest : List String) :
    read options (arguments ++ rest) = .error (.secondFile file) := by
  cases item with
  | file unnamed plain =>
    cases named
    simp [read, unnamed, plain, taken]
  | _ => cases named

/-! ## Rows of items -/

/-- A command line cut into items, with the options before and after it. -/
inductive Items : Options → List String → Options → Prop where
  | nil (options : Options) : Items options [] options
  | cons {options part after : Options} {arguments rest : List String}
      (item : Item arguments part) (oneFile : OneFile options part)
      (later : Items (options.followedBy part) rest after) :
      Items options (arguments ++ rest) after

theorem Items.cons_operation (item : Item arguments { operations := [operation] })
    (later : Items (options.add operation) rest after) :
    Items options (arguments ++ rest) after := by
  rw [add_eq_followedBy] at later
  exact .cons item (.inr rfl) later

/-- What is read to its end is a row of items. -/
theorem items_of_read (done : read options arguments = .ok (.work after)) :
    Items options arguments after := by
  fun_induction read options arguments with
  | case1 options =>
    cases done
    exact .nil _
  | case3 options argument rest named ih => exact .cons_operation (.print named) (ih done)
  | case4 options argument rest named ih =>
    exact .cons_operation (.recalculateAll named) (ih done)
  | case5 options argument assignment rest named operation assigned ih =>
    exact .cons_operation (.set named assigned) (ih done)
  | case7 options argument source target rest named ih =>
    exact .cons_operation (.copy source target named) (ih done)
  | case8 options argument source range rest named ih =>
    exact .cons_operation (.fill source range named) (ih done)
  | case9 options argument formula rest named ih =>
    exact .cons_operation (.evaluate formula named) (ih done)
  | case10 options argument path rest named ih =>
    exact .cons_operation (.output path named) (ih done)
  | case11 options argument name rest named mode known ih =>
    refine .cons (.mode named known) (.inr rfl) ?_
    simpa [followedBy] using ih done
  | case13 options argument path rest named ih =>
    refine .cons (.settings path named) (.inr rfl) ?_
    simpa [followedBy] using ih done
  | case17 options argument rest unnamed plain free ih =>
    have free : options.file = none := Option.not_isSome_iff_eq_none.mp free
    refine .cons (.file unnamed (Bool.eq_false_iff.mpr plain)) (.inl free) ?_
    simpa [followedBy, free] using ih done
  | _ => cases done

/-- A row of items is read item by item, whatever follows it. -/
theorem Items.read_append (items : Items options arguments after) (rest : List String) :
    read options (arguments ++ rest) = read after rest := by
  induction items with
  | nil options => rfl
  | cons item oneFile later ih =>
    rw [List.append_assoc, read_item item oneFile]
    exact ih

/-- A document file that is named stays. -/
theorem Items.file_eq (items : Items options arguments after) (named : options.file = some file) :
    after.file = some file := by
  induction items with
  | nil options => exact named
  | cons item oneFile later ih =>
    apply ih
    simp [followedBy, named]

theorem Items.file_eq_none (items : Items options arguments after) (unnamed : after.file = none) :
    options.file = none := by
  cases named : options.file with
  | none => rfl
  | some file =>
    have kept := items.file_eq named
    rw [unnamed] at kept
    cases kept

/-- The same row can stand behind other options that leave it its document
file. -/
theorem Items.followedBy {base : Options} (items : Items options arguments after)
    (oneFile : OneFile base after) :
    Items (base.followedBy options) arguments (base.followedBy after) := by
  induction items with
  | nil options => exact .nil _
  | @cons options part after _ _ item single later ih =>
    have behind := ih oneFile
    rw [← followedBy_assoc] at behind
    refine .cons item ((oneFile_followedBy_iff base options part).mpr ⟨?_, single⟩) behind
    apply oneFile.imp_right
    intro unnamed
    exact (Option.or_eq_none_iff.mp (later.file_eq_none unnamed)).2

/-- Behind options with a document file a row is refused at its own. -/
theorem Items.read_second_file {base : Options} (items : Items options arguments after)
    (taken : base.file.isSome) (free : options.file = none) (named : after.file = some file) :
    read (base.followedBy options) arguments = .error (.secondFile file) := by
  induction items with
  | nil options =>
    rw [free] at named
    cases named
  | @cons options part after _ rest item single later ih =>
    have still : (base.followedBy options).file.isSome := by simp [Options.followedBy, taken]
    cases given : part.file with
    | none =>
      rw [read_item item (.inr given), followedBy_assoc]
      apply ih _ named
      simp [Options.followedBy, free, given]
    | some other =>
      have kept : after.file = some other := by
        apply later.file_eq
        simp [Options.followedBy, free, given]
      have same : other = file := Option.some.inj (kept.symm.trans named)
      rw [← same]
      exact Options.read_second_file item still given rest

end Options

namespace Request

open Options (Items items_of_read)

/-- Two command lines in a row ask for the operations of both, one after the
other, with the mode and the settings file that were given last and the document
file of the one that names it.  If both name one, the second one is refused. -/
theorem ofArguments_append {first second : List String} {before after : Options}
    (readFirst : ofArguments first = .ok (.work before))
    (readSecond : ofArguments second = .ok (.work after)) :
    (before.file = none ∨ after.file = none →
      ofArguments (first ++ second) = .ok (.work {
        file := before.file.or after.file
        settingsFile := after.settingsFile.or before.settingsFile
        mode := after.mode.or before.mode
        operations := before.operations ++ after.operations })) ∧
    ∀ file, before.file.isSome → after.file = some file →
      ofArguments (first ++ second) = .error (.secondFile file) := by
  have items : Items {} second after := items_of_read readSecond
  have goesOn : ofArguments (first ++ second) = Options.read (before.followedBy {}) second := by
    rw [Options.followedBy_default]
    exact (items_of_read readFirst).read_append second
  rw [goesOn]
  constructor
  · intro oneFile
    have whole := (items.followedBy oneFile).read_append []
    rw [List.append_nil] at whole
    exact whole
  · intro file taken named
    exact items.read_second_file taken rfl named

/-- Values that look like options, a mode that is given again, and a hyphen as a
second document file. -/
theorem ofArguments_append_with_odd_values :
    let first := ["--recalc", "full", "-s", "A1=--print", "--eval", "-p"]
    let second := ["--config", "-o", "book.json", "--recalc", "direct", "--copy", "-s", "--fill"]
    let third := ["-", "--recalc-all"]
    let before : Options :=
      { mode := some .full, operations := [.set "A1" "--print", .evaluate "-p"] }
    let after : Options :=
      { file := some "book.json", settingsFile := some "-o", mode := some .direct,
        operations := [.copy "-s" "--fill"] }
    ofArguments first = .ok (.work before) ∧ ofArguments second = .ok (.work after) ∧
      ofArguments third = .ok (.work { file := some "-", operations := [.recalculateAll] }) ∧
      ofArguments (first ++ second) = .ok (.work {
        file := some "book.json"
        settingsFile := some "-o"
        mode := some .direct
        operations := [.set "A1" "--print", .evaluate "-p", .copy "-s" "--fill"] }) ∧
      ofArguments (second ++ third) = .error (.secondFile "-") := by
  intro first second third before after
  have readFirst : ofArguments first = .ok (.work before) := by rfl
  have readSecond : ofArguments second = .ok (.work after) := by rfl
  have readThird : ofArguments third =
      .ok (.work { file := some "-", operations := [.recalculateAll] }) := by rfl
  refine ⟨readFirst, readSecond, readThird, ?_, ?_⟩
  · exact (ofArguments_append readFirst readSecond).1 (.inl rfl)
  · exact (ofArguments_append readSecond readThird).2 "-" rfl rfl

end Request
end CommandLine
end Worksheet
