import LogDiagram.Shell.Run

/-!
# Quoted texts in scripts

`scriptQuoted` writes any text between single quotes, so that a script takes it as it is. A line of such texts is read as
one simple command (`Script.readLine_scriptLine`), its words stand for exactly these texts in every session
(`Session.fields_quotedWords`), and if the first one is the name of a program then this program is started with the others
as its arguments (`interpretFrom_scriptLine`): no character of them means anything to the shell.
-/

namespace LogDiagram.Shell

/-- What a character of a quoted text becomes in a script. -/
def quotedChar (c : Char) : Text := if c = '\'' then "'\"'\"'".toList else [c]

/-- The parts of a word that a character of a quoted text becomes. -/
def quotedPart (c : Char) : Word :=
  if c = '\'' then [.quotes, .char c true, .quotes] else [.char c true]

/-- The word that is read where a text stands in quotes. -/
def quotedWord (t : Text) : Word := .quotes :: t.flatMap quotedPart

/-- Quoted texts, each behind a blank. -/
def behindBlank (words : List Text) : Text := words.flatMap fun t => ' ' :: scriptQuoted t

/-- A line with quoted texts as its words. -/
def scriptLine (words : List Text) : Text := Text.joined [' '] (words.map scriptQuoted)

theorem scriptQuoted_eq (t : Text) : scriptQuoted t = '\'' :: (t.flatMap quotedChar ++ ['\'']) := rfl

theorem scriptLine_cons (t : Text) (words : List Text) :
    scriptLine (t :: words) = scriptQuoted t ++ behindBlank words := by
  induction words generalizing t with
  | nil => simp [scriptLine, behindBlank, Text.joined]
  | cons u words ih =>
    have hjoined : scriptLine (t :: u :: words) = scriptQuoted t ++ ' ' :: scriptLine (u :: words) := by
      simp [scriptLine, Text.joined]
    rw [hjoined, ih u]
    simp [behindBlank]

theorem length_lt_scriptQuoted (t : Text) : t.length + 1 < (scriptQuoted t).length := by
  have hchar (c : Char) : 1 ≤ (quotedChar c).length := by
    unfold quotedChar
    split <;> simp
  have hchars : t.length ≤ (t.flatMap quotedChar).length := by
    induction t with
    | nil => simp
    | cons c t ih =>
      have := hchar c
      simp only [List.length_cons, List.flatMap_cons, List.length_append]
      omega
  rw [scriptQuoted_eq, List.length_cons, List.length_append, List.length_singleton]
  omega

/-! ## Reading -/

/-- A word ends where the text does, or in front of a blank. -/
def EndsWord (rest : Text) : Prop := rest = [] ∨ ∃ more, rest = ' ' :: more

theorem endsWord_behindBlank (words : List Text) : EndsWord (behindBlank words) := by
  cases words with
  | nil => exact .inl rfl
  | cons t words => exact .inr ⟨_, rfl⟩

theorem readParts_endsWord {rest : Text} (hrest : EndsWord rest) (fuel : Nat) (done : Word) :
    readParts (fuel + 1) .plain done rest = some (done, rest) := by
  obtain rfl | ⟨more, rfl⟩ := hrest
  · simp [readParts]
  · simp [readParts, backQuote, Context.hasSingleQuotes, isMeta]

/-- A single quote in double quotes is a character of the word. -/
theorem readParts_doubleQuoted (fuel : Nat) (done : Word) (rest : Text) :
    readParts (fuel + 3) .plain done ('"' :: '\'' :: '"' :: rest) =
      readParts (fuel + 2) .plain (.char '\'' true :: .quotes :: done) rest := by
  have hinner : readParts (fuel + 2) .double (.quotes :: done) ('\'' :: '"' :: rest) =
      some (.char '\'' true :: .quotes :: done, rest) := by
    simp [readParts, backQuote, Context.hasSingleQuotes]
  rw [readParts]
  · simp [hinner, backQuote, Context.hasSingleQuotes]
  all_goals simp

theorem readParts_singleQuote (fuel : Nat) (done : Word) (rest : Text) :
    readParts (fuel + 1) .plain done ('\'' :: rest) =
      (readSingle (.quotes :: done) rest).bind fun (done, rest) => readParts fuel .plain done rest := by
  rw [readParts]
  · simp [backQuote, Context.hasSingleQuotes]
  all_goals simp

/-- What is read behind the opening quote of a quoted text is read to the end of the word. -/
theorem readSingle_quoted {rest : Text} (hrest : EndsWord rest) (t : Text) : ∀ (fuel : Nat) (done : Word),
    2 * t.length < fuel →
    ((readSingle done (t.flatMap quotedChar ++ '\'' :: rest)).bind fun (done, rest) =>
      readParts fuel .plain done rest) = some ((t.flatMap quotedPart).reverse ++ done, rest) := by
  induction t with
  | nil =>
    intro fuel done hfuel
    obtain ⟨fuel, rfl⟩ := Nat.exists_eq_add_of_lt hfuel
    simpa [readSingle] using readParts_endsWord hrest _ done
  | cons c t ih =>
    intro fuel done hfuel
    by_cases hc : c = '\''
    · subst hc
      -- The quotes are closed, the quote itself stands in double quotes, and the quotes are opened again.
      obtain ⟨fuel, rfl⟩ : ∃ m, fuel = m + 3 := ⟨fuel - 3, by simp at hfuel; omega⟩
      have hopened := ih (fuel + 1) (.quotes :: .char '\'' true :: .quotes :: done) (by simp at hfuel; omega)
      have hread : readSingle done (('\'' :: t).flatMap quotedChar ++ '\'' :: rest) =
          some (done, '"' :: '\'' :: '"' :: '\'' :: (t.flatMap quotedChar ++ '\'' :: rest)) := rfl
      rw [hread]
      show readParts (fuel + 3) .plain done ('"' :: '\'' :: '"' :: '\'' :: _) = _
      rw [readParts_doubleQuoted, readParts_singleQuote, hopened]
      simp [quotedPart]
    · have hopened := ih fuel (.char c true :: done) (by simp at hfuel; omega)
      simpa [quotedChar, quotedPart, hc, readSingle] using hopened

/-- A quoted text in front of a blank or the end is one word. -/
theorem readWord_scriptQuoted {rest : Text} (hrest : EndsWord rest) (t : Text) {fuel : Nat}
    (hfuel : 2 * t.length + 2 < fuel) :
    readWord fuel (scriptQuoted t ++ rest) = some (quotedWord t, rest) := by
  obtain ⟨fuel, rfl⟩ : ∃ m, fuel = m + 2 := ⟨fuel - 2, by omega⟩
  have hparts : readParts (fuel + 1) .plain [] (scriptQuoted t ++ rest) = some ((quotedWord t).reverse, rest) := by
    rw [scriptQuoted_eq, List.cons_append, List.append_assoc, readParts_singleQuote]
    simpa [quotedWord] using readSingle_quoted hrest t fuel [.quotes] (by omega)
  show (readParts (fuel + 1) .plain [] (scriptQuoted t ++ rest)).map _ = _
  rw [hparts]
  show some (Word.withHome false (quotedWord t).reverse.reverse, rest) = _
  rw [List.reverse_reverse]
  rfl

/-! ## Lines -/

theorem skipBlanks_quote (t : Text) : skipBlanks ('\'' :: t) = '\'' :: t := by simp [skipBlanks]

theorem readRedirection_nil (fuel : Nat) : readRedirection (fuel + 1) [] = some none := rfl

theorem readRedirection_quote (fuel : Nat) (t : Text) : readRedirection (fuel + 1) ('\'' :: t) = some none := rfl

/-- Blanks in front of a part of a simple command do not matter. -/
theorem readSimple_blank (fuel : Nat) (simple : Simple) (t : Text) :
    readSimple fuel simple (' ' :: t) = readSimple fuel simple t := by
  cases fuel with
  | zero => rfl
  | succ fuel => rw [readSimple, readSimple, skipBlanks]

theorem quotedWord_assignment? (t : Text) : (quotedWord t).assignment? [] = none := rfl

/-- Quoted texts become the words of a simple command, one after the other. -/
theorem readSimple_behindBlank : ∀ (words : List Text) (done : List Word) (fuel : Nat),
    done.reverse ++ words.map quotedWord ≠ [] → 2 * (behindBlank words).length + 3 < fuel →
    readSimple fuel ⟨[], done, []⟩ (behindBlank words) =
      some (.simple [] (done.reverse ++ words.map quotedWord) [], [])
  | [], done, fuel, hne, hfuel => by
    obtain ⟨fuel, rfl⟩ : ∃ m, fuel = m + 2 := ⟨fuel - 2, by omega⟩
    cases done with
    | nil => simp at hne
    | cons word done =>
      rw [behindBlank, List.flatMap_nil, readSimple, skipBlanks]
      · simp [readRedirection_nil, Simple.command?]
      all_goals simp
  | t :: words, done, fuel, _, hfuel => by
    have hlength : (behindBlank (t :: words)).length = (scriptQuoted t).length + 1 + (behindBlank words).length := by
      simp [behindBlank, Nat.add_right_comm]
    have hquoted := length_lt_scriptQuoted t
    obtain ⟨fuel, rfl⟩ : ∃ m, fuel = m + 2 := ⟨fuel - 2, by omega⟩
    have hword : readWord (fuel + 1) (scriptQuoted t ++ behindBlank words) = some (quotedWord t, behindBlank words) :=
      readWord_scriptQuoted (endsWord_behindBlank words) t (by omega)
    have hmore := readSimple_behindBlank words (quotedWord t :: done) (fuel + 1) (by simp) (by omega)
    have hblanks : skipBlanks (behindBlank (t :: words)) = scriptQuoted t ++ behindBlank words := by
      simp [behindBlank, skipBlanks, scriptQuoted_eq]
    have hput : Simple.put ⟨[], done, []⟩ (quotedWord t) = ⟨[], quotedWord t :: done, []⟩ := by
      simp [Simple.put, quotedWord_assignment?]
    obtain ⟨body, hbody⟩ : ∃ body, scriptQuoted t ++ behindBlank words = '\'' :: body := ⟨_, rfl⟩
    rw [hbody] at hword
    rw [readSimple, hblanks, hbody]
    simp [readRedirection_quote, isMeta, hword, hput, hmore]

theorem exists_scriptLine (t : Text) (words : List Text) : ∃ body, scriptLine (t :: words) = '\'' :: body :=
  ⟨_, scriptLine_cons t words⟩

theorem readCommand_scriptLine (t : Text) (words : List Text) (fuel : Nat)
    (hfuel : 2 * (scriptLine (t :: words)).length + 6 < fuel) :
    readCommand fuel (scriptLine (t :: words)) = some (.simple [] ((t :: words).map quotedWord) [], []) := by
  obtain ⟨fuel, rfl⟩ : ∃ m, fuel = m + 2 := ⟨fuel - 2, by omega⟩
  have hblank : behindBlank (t :: words) = ' ' :: scriptLine (t :: words) := by
    rw [scriptLine_cons]
    rfl
  have hsimple : readSimple (fuel + 1) .empty (scriptLine (t :: words)) =
      some (.simple [] ((t :: words).map quotedWord) [], []) := by
    rw [← readSimple_blank, ← hblank]
    exact readSimple_behindBlank (t :: words) [] (fuel + 1) (by simp) (by rw [hblank, List.length_cons]; omega)
  obtain ⟨body, hbody⟩ := exists_scriptLine t words
  rw [hbody] at hsimple ⊢
  rw [readCommand]
  · simp [closes, closers, afterReserved?, Text.afterPrefix?, hsimple]
  all_goals simp

theorem readPipeline_scriptLine (t : Text) (words : List Text) (fuel : Nat)
    (hfuel : 2 * (scriptLine (t :: words)).length + 8 < fuel) :
    readPipeline fuel (scriptLine (t :: words)) = some (.simple [] ((t :: words).map quotedWord) [], []) := by
  obtain ⟨fuel, rfl⟩ : ∃ m, fuel = m + 2 := ⟨fuel - 2, by omega⟩
  have hcommand := readCommand_scriptLine t words fuel (by omega)
  obtain ⟨body, hbody⟩ := exists_scriptLine t words
  rw [hbody] at hcommand ⊢
  have hstages : readStages (fuel + 1) ('\'' :: body) =
      some ([.simple [] ((t :: words).map quotedWord) []], []) := by
    rw [readStages, skipBlanks_quote, hcommand]
    rfl
  rw [readPipeline, skipBlanks_quote]
  simp [afterReserved?, Text.afterPrefix?, hstages]

theorem readList_scriptLine (t : Text) (words : List Text) (fuel : Nat)
    (hfuel : 2 * (scriptLine (t :: words)).length + 10 < fuel) :
    readList fuel true (scriptLine (t :: words)) = some (.simple [] ((t :: words).map quotedWord) [], []) := by
  obtain ⟨fuel, rfl⟩ : ∃ m, fuel = m + 3 := ⟨fuel - 3, by omega⟩
  have hpipeline := readPipeline_scriptLine t words (fuel + 1) (by omega)
  obtain ⟨body, hbody⟩ := exists_scriptLine t words
  rw [hbody] at hpipeline ⊢
  have hchain : readChain (fuel + 2) ('\'' :: body) = some (.simple [] ((t :: words).map quotedWord) [], []) := by
    rw [readChain, hpipeline]
    rfl
  rw [readList, skipSpace, if_pos rfl, skipBlanks_quote, hchain]
  rfl

/-- **A line of quoted texts is read as the simple command of these words, whatever the texts are.** -/
theorem Script.readLine_scriptLine (t : Text) (words : List Text) :
    Script.readLine (scriptLine (t :: words)) = .commands (.simple [] ((t :: words).map quotedWord) []) [] := by
  have hlist := readList_scriptLine t words (readFuel (scriptLine (t :: words))) (by rw [readFuel]; omega)
  obtain ⟨body, hbody⟩ := exists_scriptLine t words
  have hlines : skipLines (scriptLine (t :: words)).length (scriptLine (t :: words)) = scriptLine (t :: words) := by
    rw [hbody, List.length_cons, skipLines, skipBlanks_quote]
    simp
  rw [hbody] at hlist hlines ⊢
  rw [Script.readLine, hlines]
  simp [hlist]

/-! ## Meaning -/

/-- A text as a field in which every character only stands for itself. -/
def fixedField (t : Text) : Field := t.map fun c => (c, true)

theorem fixedField_text (t : Text) : (fixedField t).text = t := by simp [fixedField, Field.text, Function.comp_def]

theorem fixedField_resolve (tree : FileTree) (t : Text) : (fixedField t).resolve tree = [t] := by
  have hpattern : (fixedField t).isPattern = false := by simp [fixedField, Field.isPattern]
  rw [Field.resolve, hpattern, if_neg Bool.false_ne_true, fixedField_text]

section Meaning

variable {interpreter : Interpreter} {session : Session}

/-- The parts of a quoted text are put behind what the open field has. -/
theorem expandParts_quotedParts (interpreter : Interpreter) (hrun : session.isRunning = true) (t : Text) : ∀ fields : Fields,
    ∃ quotes isAfterBlank, fields.quotes ≤ quotes ∧
      Expansion.expandParts ⟨interpreter, true⟩ false (t.flatMap quotedPart) (session, fields) =
        (session, ⟨(fixedField t).reverse ++ fields.current, quotes, isAfterBlank, fields.done⟩) := by
  induction t with
  | nil => exact fun fields => ⟨fields.quotes, fields.isAfterBlank, Nat.le_refl _, rfl⟩
  | cons c t ih =>
    intro fields
    by_cases hc : c = '\''
    · obtain ⟨quotes, isAfterBlank, hquotes, hparts⟩ :=
        ih ⟨(c, true) :: fields.current, fields.quotes + 2, false, fields.done⟩
      refine ⟨quotes, isAfterBlank, by simp only at hquotes; omega, ?_⟩
      simp [quotedPart, hc, Expansion.expandParts, Expansion.expandPart, hrun, Fields.put, fixedField] at hparts ⊢
      exact hparts
    · obtain ⟨quotes, isAfterBlank, hquotes, hparts⟩ := ih (fields.put c true)
      refine ⟨quotes, isAfterBlank, hquotes, ?_⟩
      simp [quotedPart, hc, Expansion.expandParts, Expansion.expandPart, hrun, Fields.put, fixedField] at hparts ⊢
      exact hparts

/-- A quoted text is one field, even if it is empty. -/
theorem Session.wordFields_quotedWord (hrun : session.isRunning = true) (t : Text) :
    session.wordFields interpreter (quotedWord t) = ([fixedField t], session) := by
  obtain ⟨quotes, isAfterBlank, hquotes, hparts⟩ :=
    expandParts_quotedParts interpreter hrun t { Fields.empty with quotes := 1 }
  have hword : Expansion.expandParts ⟨interpreter, true⟩ false (quotedWord t) (session, .empty) =
      (session, ⟨(fixedField t).reverse, quotes, isAfterBlank, []⟩) := by
    simpa [quotedWord, Expansion.expandParts, Expansion.expandPart, hrun, Fields.empty] using hparts
  have hopen : quotes ≠ 0 := by
    have : 1 ≤ quotes := hquotes
    omega
  rw [wordFields, hword]
  simp [Fields.flush, Fields.isOpen, Fields.finish, hopen]

/-- **Quoted words stand for their own texts, and nothing happens to the session.** -/
theorem Session.fields_quotedWords (hrun : session.isRunning = true) (words : List Text) :
    session.fields interpreter (words.map quotedWord) = (words, session) := by
  induction words with
  | nil => rfl
  | cons t words ih =>
    rw [List.map_cons, fields, wordFields_quotedWord hrun]
    simp [fixedField_text, fixedField_resolve, hrun, ih]

end Meaning

/-! ## Runs -/

/-- A special command is a command of the shell. -/
theorem isBuiltinName_of_isSpecialName {name : Text} (h : isSpecialName name = true) : isBuiltinName name = true := by
  obtain ⟨known, hknown, hname⟩ := List.any_eq_true.mp h
  obtain rfl : known.toList = name := by simpa using hname
  have hall : (specialNames.all fun known => isBuiltinName known.toList) = true := by decide +kernel
  exact List.all_eq_true.mp hall known hknown

section Runs

variable {interpreter : Interpreter} {session : Session} {name : Text} {arguments : List Text}

theorem ne_of_isBuiltinName_eq_false (hname : isBuiltinName name = false) {known : String}
    (hknown : known ∈ runningNames) : name ≠ known.toList := by
  rintro rfl
  have hrunning := (Bool.or_eq_false_iff.mp hname).2
  simpa using List.any_eq_false.mp hrunning known hknown

theorem programOf?_of_not_builtin (hname : isBuiltinName name = false) : programOf? plainBuiltins name = none := by
  have hplain := (Bool.or_eq_false_iff.mp hname).1
  rw [programOf?, Option.map_eq_none_iff, List.find?_eq_none]
  exact fun entry hentry => by simpa using List.any_eq_false.mp hplain entry hentry

namespace Session

/-- A name that the shell gives no meaning to is that of a program. -/
theorem runNamed_of_not_builtin (hname : isBuiltinName name = false) :
    session.runNamed interpreter name arguments = interpreter.launch (name :: arguments) session := by
  have hnone (known : String) (hknown : known ∈ runningNames) : String.ofList name ≠ known := by
    rintro rfl
    exact ne_of_isBuiltinName_eq_false hname hknown String.toList_ofList.symm
  unfold runNamed
  rw [programOf?_of_not_builtin hname]
  split
  · contradiction
  · exact absurd ‹String.ofList name = "eval"› (hnone _ (by decide))
  · exact absurd ‹String.ofList name = "."› (hnone _ (by decide))
  · exact absurd ‹String.ofList name = "type"› (hnone _ (by decide))
  · rfl

theorem commandFields_quotedWords (interpreter : Interpreter) (hrun : session.isRunning = true) (words : List Text) :
    commandFields interpreter (words.map quotedWord) session = (words, session) := by
  have hdeclaring : ((words.map quotedWord).head?.bind Word.bare?) = none := by
    cases words with
    | nil => rfl
    | cons t words => rfl
  rw [commandFields, hdeclaring]
  exact fields_quotedWords hrun words

/-- A program is started with the texts of the quoted words of a simple command. -/
theorem runSimple_quotedWords (hrun : session.isRunning = true) (hname : isBuiltinName name = false)
    (hfunction : session.functions.lookup name = none) (htrace : session.hasOption 'x' = false) :
    session.runSimple interpreter [] ((name :: arguments).map quotedWord) [] =
      interpreter.launch (name :: arguments) { session with outputStatus := 0 } := by
  have hrunning : ({ session with outputStatus := 0 } : Session).isRunning = true := hrun
  have hfields := commandFields_quotedWords interpreter hrunning (name :: arguments)
  have htraced : ({ session with outputStatus := 0 } : Session).trace [] (name :: arguments) =
      { session with outputStatus := 0 } := by
    have hoff : ({ session with outputStatus := 0 } : Session).hasOption 'x' = false := htrace
    rw [trace, hoff, if_neg Bool.false_ne_true]
  have hspecial : isSpecialName name = false := by
    refine Bool.eq_false_iff.mpr fun h => ?_
    rw [isBuiltinName_of_isSpecialName h] at hname
    cases hname
  have hexec : name ≠ "exec".toList := ne_of_isBuiltinName_eq_false hname (by decide)
  have hcommand : name ≠ "command".toList := ne_of_isBuiltinName_eq_false hname (by decide)
  have hnamed : ({ session with outputStatus := 0 } : Session).runNamed interpreter name arguments =
      interpreter.launch (name :: arguments) { session with outputStatus := 0 } := runNamed_of_not_builtin hname
  unfold runSimple
  rw [hfields]
  simp only [hrunning, Bool.not_true, Bool.false_eq_true, if_false, hspecial, hfunction, hexec, hcommand, redirected,
    List.isEmpty_nil, if_true, withAssignments, htraced, programOf?_of_not_builtin hname, Option.isSome_none, hnamed]

end Session

/--
**A line of quoted texts starts the program that the first one names, with the others as its arguments.** No character of
the texts means anything to the shell; what happens then is up to the program, the option `e` and the signals that came.
-/
theorem interpretFrom_scriptLine (hrun : session.isRunning = true) (hname : isBuiltinName name = false)
    (hfunction : session.functions.lookup name = none) (htrace : session.hasOption 'x' = false)
    (hread : session.hasOption 'n' = false) (fuel : Nat) (isStart : Bool) :
    interpretFrom (fuel + 2) isStart (scriptLine (name :: arguments)) session =
      (launchIn fuel (name :: arguments) { session with outputStatus := 0 }).stopIfFailed.answerSignals
        ⟨Command.run fuel, interpretFrom fuel true, launchIn fuel⟩ := by
  have hcommand : Command.run (fuel + 1) (.simple [] ((name :: arguments).map quotedWord) []) session =
      (launchIn fuel (name :: arguments) { session with outputStatus := 0 }).stopIfFailed.answerSignals
        ⟨Command.run fuel, interpretFrom fuel true, launchIn fuel⟩ := by
    rw [Command.run, Session.runSimple_quotedWords hrun hname hfunction htrace]
    simp [hrun, hread]
  rw [interpretFrom, Script.readLine_scriptLine]
  simp only [hcommand]
  split
  · rfl
  · rfl

end Runs

end LogDiagram.Shell
