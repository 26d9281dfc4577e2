import QueryTemplate.Main
import QueryTemplate.Proofs.CommandLines
import QueryTemplate.Proofs.Packages
import QueryTemplate.Proofs.Requests

/-! The service and the command tell alike what the compiler makes of a request. -/
namespace QueryTemplate

open Program

namespace Command

variable {r : CompileRequest} {s : Settings} {line : CommandLine} {words : List String}
  {w w' : World}

/-- An error as it is shown, unless its message is no markup. -/
def complaintText (kit : Toolkit) (message : String) : Except MarkupError Text :=
  kit.paragraph ("[red]Error:[/red] " ++ message).toList

/-- What is written of an error. -/
def complaint (kit : Toolkit) (message : String) : Text :=
  match complaintText kit message with
  | .ok text => if text.isEncodable then text else []
  | .error _ => []

/-- How a command ends over an error. -/
def complaintStop (kit : Toolkit) (message : String) : Stop :=
  match complaintText kit message with
  | .ok text => if text.isEncodable then .failed else .fault (.unencodable text)
  | .error e => .fault (.markup e)

theorem complaintStop_eq (kit : Toolkit) (message : String) :
    complaintStop kit message = .failed ∨ ∃ f, complaintStop kit message = .fault f := by
  unfold complaintStop
  split
  · split
    · exact Or.inl rfl
    · exact Or.inr ⟨_, rfl⟩
  · exact Or.inr ⟨_, rfl⟩

section Reports

theorem exec_sayError_stop {α : Type} (message : String) (w : World) :
    exec (do sayError message; stop .failed : Command α) w =
      (.error (complaintStop w.kit message), w.write (complaint w.kit message)) := by
  have hsay : exec (sayError message) w = exec (shown (complaintText w.kit message)) w := rfl
  rw [exec_bind, hsay, complaintStop, complaint]
  cases complaintText w.kit message with
  | error e => simp [shown]
  | ok text =>
    have hshown : exec (shown (.ok text)) w = exec (echo text) w := rfl
    rw [hshown, exec_echo]
    by_cases htext : text.isEncodable = true <;> simp [htext]

theorem exec_report {α : Type} {e : CallError} {report : Report} (h : e.report? = some report)
    (w : World) : exec (Command.report e : Command α) w =
      (.error (complaintStop w.kit report.message), w.write (complaint w.kit report.message)) := by
  rcases CallError.of_report? h with ⟨e', rfl, rfl⟩ | ⟨f, rfl, rfl⟩
  · exact exec_sayError_stop e'.message w
  · rw [Refusal.report_message]
    exact exec_sayError_stop f.message w

/-- A line is written if it can be. -/
theorem exec_echoLine (hkit : w.kit.Documented) (text : Text) :
    exec (echoLine text) w =
      if text.isEncodable then (.ok (), w.write (w.kit.plain text ++ ['\n']))
      else (.error (.fault (.unencodable (w.kit.plain text ++ ['\n']))), w) := by
  have hline : Text.isEncodable (w.kit.plain text ++ ['\n']) = text.isEncodable := by
    rw [Text.isEncodable_append, hkit.isEncodable_plain]
    exact Bool.and_true _
  unfold echoLine
  rw [exec_bind_of_ok (exec_get w), exec_echo, hline]

end Reports

section Plain

/-! What a command line that asks for a request makes of each part of the command. -/

theorem exec_readOptions (hline : w.kit.readWords compileOptions true words = .ok line)
    (h : line.AsksFor r) : exec (readOptions compileOptions words) w = (.ok line, w) := by
  have hhelp : line.has helpOption.name = false := h.has_eq_false (by decide) (by decide)
  unfold readOptions
  rw [exec_bind_of_ok (exec_get w), hline]
  simp [hhelp]

/-- Only the values of files are checked. -/
theorem exec_checkEach {check : String → String → Command Unit}
    (hcheck : ∀ name value, name = "arg" ∨ name = "escaper" →
      exec (check name value) w = (.ok (), w))
    (h : line.AsksFor r) : exec (checkEach line check) w = (.ok (), w) := by
  refine exec_forM_of_idle fun name hname => ?_
  obtain ⟨o, ho, rfl⟩ := List.mem_map.1 (List.mem_eraseDups.1 hname)
  cases line.value? o.1 with
  | none => rfl
  | some value => exact hcheck o.1 value (h.plain o ho)

theorem exec_checkCount (h : line.AsksFor r) : exec (checkCount 1 line) w = (.ok (), w) := by
  rw [checkCount, h.template]
  rfl

theorem exec_templateText (h : line.AsksFor r) (hblank : ¬ r.template.toList.all Text.isBlank) :
    exec (templateText line) w = (.ok r.template.toList, w) := by
  have hfile : line.value? fileOption.name = none :=
    CommandLine.value?_eq_none (h.has_eq_false (by decide) (by decide))
  have hsome : r.template.isEmpty = false := by
    rw [Bool.eq_false_iff]
    intro hempty
    rw [String.isEmpty_iff.1 hempty] at hblank
    exact hblank rfl
  unfold templateText
  rw [exec_bind_of_ok (exec_get w), hfile, h.template]
  simp [hsome]

theorem mapM_readArgument {texts : List String} {js : List Json}
    (h : List.Forall₂ (fun text j => Json.read text.toList = .ok j) texts js) :
    texts.mapM readArgument = .ok (Json.valuesOf js) := by
  induction h with
  | nil => rfl
  | @cons text j texts js hread _ ih =>
    have hfirst : readArgument text = .ok j.toValue := by rw [readArgument, hread]
    rw [List.mapM_cons, hfirst, ih]
    rfl

theorem exec_arguments (h : line.AsksFor r) :
    exec (arguments line) w = (.ok (Json.valuesOf r.args), w) := by
  have hfile : line.value? argsFileOption.name = none :=
    CommandLine.value?_eq_none (h.has_eq_false (by decide) (by decide))
  simp [arguments, hfile, mapM_readArgument h.args]

/-- The compiler of the command is that of its settings. -/
theorem exec_compiled (hs : w.configuration.get.2 = .ok s) (h : line.AsksFor r) :
    ∃ c, exec (compiled line r.template.toList (Json.valuesOf r.args)) w =
      exec (match r.outcome s with
        | .ok done => pure done
        | .error e => Command.report e)
        ({ w with configuration := c }.write (w.logger.compilerText w.kit.columns w.time (r.log s))) := by
  obtain ⟨c, hc, hescaper⟩ := Configuration.escaper_of_loads hs r.escaper
  unfold compiled CompileRequest.outcome CompileRequest.log Settings.compilerFor
  rw [exec_bind, exec_configured, h.escaper, hescaper]
  cases Escaper.named (r.escaper.getD s.compiler.escaper) with
  | error e =>
    refine ⟨c, ?_⟩
    simp [Except.map, Logger.compilerText]
  | ok e =>
    refine ⟨c.get.1, ?_⟩
    dsimp only [Except.map]
    rw [exec_bind, exec_configured, Configuration.compiler_of_loads hc e]
    dsimp only
    rw [exec_bind_of_ok (exec_log_all _ _)]
    cases (Compiler.compile _ r.template.toList (Json.valuesOf r.args)).result <;> rfl

/-- All that the command does is to compile and to write what comes of it. -/
theorem exec_compile (hline : w.kit.readWords compileOptions true words = .ok line)
    (h : line.AsksFor r) (hblank : ¬ r.template.toList.all Text.isBlank)
    (hs : w.configuration.get.2 = .ok s) :
    ∃ c, exec (compile words) w =
      exec (match r.outcome s with
        | .ok done => echoLine done.query
        | .error e => Command.report e)
        ({ w with configuration := c }.write (w.logger.compilerText w.kit.columns w.time (r.log s))) := by
  obtain ⟨c, hcompiled⟩ := exec_compiled hs h
  refine ⟨c, ?_⟩
  have hverbose : line.has "verbose" = false := h.has_eq_false (by decide) (by decide)
  have houtput : line.value? outputOption.name = none :=
    CommandLine.value?_eq_none (h.has_eq_false (by decide) (by decide))
  -- Up to the compiler every part succeeds and leaves the world as it is.
  unfold compile
  rw [exec_bind_of_ok (exec_readOptions hline h), exec_bind_of_ok (exec_checkEach ?idle h),
    exec_bind_of_ok (exec_checkCount h), exec_bind_of_ok (exec_templateText h hblank),
    if_neg hblank, exec_bind_of_ok (exec_arguments h), exec_bind, hcompiled]
  case idle =>
    rintro name value (rfl | rfl) <;> rfl
  cases houtcome : r.outcome s with
  | ok done => simp [hverbose, houtput, compile.present]
  | error e =>
    obtain ⟨report, hreport⟩ := CompileRequest.exists_report_of_error houtcome
    simp only [exec_report hreport]

end Plain

section Runs

/-- Before a command of the program logging is set up. -/
theorem exec_dispatch_compile (hs : w.configuration.get.2 = .ok s)
    (hl : s.logging.level?.isSome)
    (hgroup : w.kit.readWords groupOptions false ("compile" :: words) =
      .ok { arguments := "compile" :: words }) :
    exec (dispatch ("compile" :: words)) w =
      exec (compile words)
        { w with configuration := w.configuration.get.1, logger := s.logging.logger } := by
  have hread : exec (readGroup ("compile" :: words)) w = (.ok ("compile" :: words), w) := by
    unfold readGroup
    rw [exec_bind_of_ok (exec_get w), hgroup]
    rfl
  have hcommand : commands.lookup "compile" = some compile := rfl
  unfold dispatch
  rw [exec_bind_of_ok hread]
  dsimp only
  rw [hcommand]
  dsimp only
  rw [exec_bind_of_ok (exec_setUpLogging hs hl)]

theorem run_of_ok (h : exec (dispatch words) w = (.ok (), w')) : run words w = (.done, w') := by
  have hrun : ExceptT.run (dispatch words) w = (.ok (), w') := h
  rw [run, hrun]

theorem run_of_fault {f : Fault} (h : exec (dispatch words) w = (.error (.fault f), w')) :
    run words w = (.fault f, w') := by
  have hrun : ExceptT.run (dispatch words) w = (.error (.fault f), w') := h
  rw [run, hrun]

theorem run_of_complaint {kit : Toolkit} {message : String}
    (h : exec (dispatch words) w = (.error (complaintStop kit message), w')) :
    (run words w).1.code = 1 ∧ (run words w).2 = w' := by
  have hrun : ExceptT.run (dispatch words) w = (.error (complaintStop kit message), w') := h
  rw [run, hrun]
  rcases complaintStop_eq kit message with hstop | ⟨f, hstop⟩ <;> rw [hstop] <;> exact ⟨rfl, rfl⟩

end Runs

end Command

section Surfaces

variable {c : Configuration} {s : Settings} {r : CompileRequest} {w : World}

/-- The service answers with what the compiler makes of a request. -/
theorem Configuration.answer_of_loads {web : Framework} (hweb : web.Documented)
    {body : Option Text} (hc : c.get.2 = .ok s) (hread : web.read body = .ok r) :
    (c.answer web ⟨.post, Endpoint.compile.path, body⟩).2 = match r.outcome s with
      | .ok done => Reply.compilation web.takes done
      | .error e => Reply.ofError web.takes e :=
  (answer_compile (hweb.find .compile) hread).trans (compileRequest_of_loads hc web.takes r)

/-- The command writes what the compiler makes of a request, if that can be written, or the message
of the error. -/
theorem Command.run_of_loads {words : List String} (hkit : w.kit.Documented)
    (hw : w.configuration.get.2 = .ok s) (hlevel : s.logging.level?.isSome)
    (hwords : w.kit.HandsOver words r) (hblank : ¬ r.template.toList.all Text.isBlank) :
    let ended := run ("compile" :: words) w
    let logged := s.logging.logger.compilerText w.kit.columns w.time (r.log s)
    match r.outcome s with
    | .ok done => ended.1.code = (if done.query.isEncodable then 0 else 1) ∧
        ended.2.output = w.output ++ logged ++
          if done.query.isEncodable then w.kit.plain done.query ++ ['\n'] else []
    | .error e => ∃ report, e.report? = some report ∧ ended.1.code = 1 ∧
        ended.2.output = w.output ++ logged ++ complaint w.kit report.message := by
  intro ended logged
  obtain ⟨line, hline, h⟩ := hwords.line
  let ready : World :=
    { w with configuration := w.configuration.get.1, logger := s.logging.logger }
  obtain ⟨c, hcompile⟩ : ∃ c, exec (compile words) ready =
      exec (match r.outcome s with
        | .ok done => echoLine done.query
        | .error e => Command.report e)
        ({ ready with configuration := c }.write logged) :=
    exec_compile (w := ready) hline h hblank (Configuration.get_snd_of_loads hw)
  rw [← exec_dispatch_compile hw hlevel hwords.group] at hcompile
  cases houtcome : r.outcome s with
  | ok done =>
    rw [houtcome] at hcompile
    have hready : ({ ready with configuration := c }.write logged).kit.Documented := hkit
    dsimp only at hcompile ⊢
    rw [exec_echoLine hready] at hcompile
    by_cases hquery : done.query.isEncodable = true
    · rw [if_pos hquery, World.write_write] at hcompile
      have hended : ended = _ := run_of_ok hcompile
      rw [hended, if_pos hquery, if_pos hquery]
      exact ⟨rfl, by simp [World.write, ready]⟩
    · rw [if_neg hquery] at hcompile
      have hended : ended = _ := run_of_fault hcompile
      rw [hended, if_neg hquery, if_neg hquery, List.append_nil]
      exact ⟨rfl, rfl⟩
  | error e =>
    obtain ⟨report, hreport⟩ := CompileRequest.exists_report_of_error houtcome
    rw [houtcome] at hcompile
    simp only [exec_report hreport, World.write_write] at hcompile
    obtain ⟨hcode, hleft⟩ := run_of_complaint hcompile
    exact ⟨report, hreport, hcode, by rw [hleft]; simp [World.write, ready]⟩

/-- A request with one argument. -/
def CompileRequest.bound : CompileRequest := ⟨"SELECT ?d", [.int 7], none⟩

def CompileRequest.boundBody : Text := "\x7b\"template\": \"SELECT ?d\", \"args\": [7]\x7d".toList

theorem CompileRequest.read_bound : Framework.standard.read (some boundBody) = .ok bound := by
  rw [Framework.standard_read]
  exact read_of_parts? [.inl 7] (by decide +kernel)

/-- A request with a sequence that colours what follows it. -/
def CompileRequest.coloured : CompileRequest := ⟨"SELECT \x1b[31m1", [], none⟩

def CompileRequest.colouredBody : Text := "\x7b\"template\": \"SELECT \\u001b[31m1\"\x7d".toList

theorem CompileRequest.read_coloured :
    Framework.standard.read (some colouredBody) = .ok coloured := by
  rw [Framework.standard_read]
  exact read_of_parts? [] (by decide +kernel)

/-- A request with a surrogate that stands alone. -/
def CompileRequest.halved : CompileRequest :=
  ⟨"SELECT ?", [.string (String.singleton (Text.charOf 0xd800))], none⟩

def CompileRequest.halvedBody : Text :=
  "\x7b\"template\": \"SELECT ?\", \"args\": [\"\\ud800\"]\x7d".toList

theorem CompileRequest.read_halved : Framework.standard.read (some halvedBody) = .ok halved := by
  rw [Framework.standard_read]
  exact read_of_parts? [.inr (String.singleton (Text.charOf 0xd800))] (by decide +kernel)

end Surfaces
end QueryTemplate
