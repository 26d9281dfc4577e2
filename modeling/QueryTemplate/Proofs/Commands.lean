import QueryTemplate.Command.Run
import QueryTemplate.Proofs.Configured
import QueryTemplate.Proofs.Loggers
import QueryTemplate.Proofs.Programs

/-! What the parts of a command make of the world that they find. -/
namespace QueryTemplate

open Program

/-- The world with more text written. -/
def World.write (w : World) (text : Text) : World := { w with output := w.output ++ text }

namespace World

@[simp] theorem write_nil (w : World) : w.write [] = w := by simp [write]

@[simp] theorem write_write (w : World) (a b : Text) : (w.write a).write b = w.write (a ++ b) := by
  simp [write]

end World

/-- A world with nothing configured and nothing written. -/
def World.bare : World := { configuration := {}, time := "", elapsed := ⟨0⟩ }

theorem World.bare_loads : World.bare.configuration.get.2 = .ok {} :=
  eq_ok_of_toOption (by decide +kernel)

/-- The lines that a logger writes of a message of the compiler. -/
def Logger.compilerLines (l : Logger) (layout : String → Level → String → String)
    (time message : String) : List String :=
  (l.write layout { time, level := .debug, logger := Compiler.logger, message }).toOption.getD []

/-- A line with its end. -/
def Logger.ended (line : String) : Text := line.toList ++ ['\n']

/-- What a logger writes of messages of the compiler. -/
def Logger.compilerText (l : Logger) (layout : String → Level → String → String) (time : String)
    (messages : List String) : Text :=
  messages.flatMap fun message => (l.compilerLines layout time message).flatMap ended

theorem mapM_of_ok {α β ε : Type} {f : α → Except ε β} {l : List α} (g : α → β)
    (h : ∀ a ∈ l, f a = .ok (g a)) : l.mapM f = .ok (l.map g) := by
  induction l with
  | nil => rfl
  | cons a l ih =>
    have hfirst := h a List.mem_cons_self
    have hrest := ih fun a' ha' => h a' (List.mem_cons_of_mem a ha')
    rw [List.mapM_cons, hfirst, hrest]
    rfl

theorem exists_mapM_of_ok {α β ε : Type} {f : α → Except ε β} (h : ∀ a, ∃ b, f a = .ok b)
    (l : List α) : ∃ bs, l.mapM f = .ok bs := by
  obtain ⟨g, hg⟩ := Classical.skolem.1 h
  exact ⟨l.map g, mapM_of_ok g fun a _ => hg a⟩

theorem LogRecord.text_of_no_arguments {r : LogRecord} (h : r.arguments = []) :
    r.text = .ok r.message := by
  simp [text, fillMessage, h, Except.map]

/-- Only arguments can keep a record from being written. -/
theorem Logger.exists_write {r : LogRecord} (h : r.arguments = []) (l : Logger)
    (layout : String → Level → String → String) : ∃ lines, l.write layout r = .ok lines := by
  have htext := LogRecord.text_of_no_arguments h
  unfold write
  split
  · exact ⟨[], rfl⟩
  · obtain ⟨readable, hreadable⟩ : ∃ line, r.readable = .ok line :=
      ⟨_, by rw [LogRecord.readable, htext]; rfl⟩
    obtain ⟨json, hjson⟩ : ∃ line, r.json = .ok line :=
      ⟨_, by rw [LogRecord.json, LogRecord.fields, htext]; rfl⟩
    have hcolumns : r.columns layout = .ok (layout r.time r.level r.message) := by
      rw [LogRecord.columns, htext]
      rfl
    refine exists_mapM_of_ok (fun handler => ?_) l.handlers
    cases handler with
    | readable => exact ⟨readable, hreadable⟩
    | json => exact ⟨json, hjson⟩
    | columns => exact ⟨_, hcolumns⟩

namespace Configuration

variable {c : Configuration} {s : Settings}

theorem setUpLogging_of_known (hs : c.get.2 = .ok s) (hl : s.logging.level?.isSome) (l : Logger) :
    c.setUpLogging l none = (c.get.1, s.logging.logger, .ok ()) := by
  have hsettings : c.get.2.map Settings.logging = .ok s.logging := by
    rw [hs]
    rfl
  simp only [setUpLogging, hsettings, Logger.setUp_of_known hl]
  rfl

end Configuration

namespace Command

variable {w : World}

section Steps

@[simp] theorem exec_stop {α : Type} (s : Stop) (w : World) :
    exec (stop s : Command α) w = (.error s, w) := rfl

@[simp] theorem exec_put (text : Text) (w : World) : exec (put text) w = (.ok (), w.write text) :=
  rfl

@[simp] theorem exec_configured {α : Type} (f : Configuration → Configuration × α) (w : World) :
    exec (configured f) w =
      (.ok (f w.configuration).2, { w with configuration := (f w.configuration).1 }) := rfl

theorem exec_echo (text : Text) (w : World) :
    exec (echo text) w = if text.isEncodable then (.ok (), w.write text)
      else (.error (.fault (.unencodable text)), w) := by
  unfold echo
  split <;> rfl

/-- A loop whose rounds only write. -/
theorem exec_forM_write {α : Type} {f : α → Command Unit} (text : α → Text)
    (h : ∀ a t, exec (f a) (w.write t) = (.ok (), w.write (t ++ text a))) (l : List α) (t : Text) :
    exec (l.forM f) (w.write t) = (.ok (), w.write (t ++ l.flatMap text)) := by
  induction l generalizing t with
  | nil => simp
  | cons a l ih =>
    have hfirst := h a t
    have hrest := ih (t ++ text a)
    rw [List.flatMap_cons, ← List.append_assoc]
    exact (exec_bind_of_ok hfirst _).trans hrest

end Steps

section Parts

theorem exec_setUpLogging {s : Settings} (hs : w.configuration.get.2 = .ok s)
    (hl : s.logging.level?.isSome) :
    exec setUpLogging w =
      (.ok (), { w with configuration := w.configuration.get.1, logger := s.logging.logger }) := by
  unfold setUpLogging
  simp only [exec_bind, exec_get, exec_set, Configuration.setUpLogging_of_known hs hl, exec_pure]

theorem exec_log (message : String) (w : World) :
    exec (log .debug Compiler.logger message) w =
      (.ok (), w.write
        ((w.logger.compilerLines w.kit.columns w.time message).flatMap Logger.ended)) := by
  obtain ⟨lines, hlines⟩ : ∃ lines, w.logger.write w.kit.columns
      { time := w.time, level := .debug, logger := Compiler.logger, message } = .ok lines :=
    w.logger.exists_write rfl w.kit.columns
  have hput : exec (lines.forM fun line => put (Logger.ended line)) w =
      (.ok (), w.write (lines.flatMap Logger.ended)) := by
    simpa using exec_forM_write (w := w) Logger.ended (fun a t => by simp) lines []
  have hwritten : w.logger.compilerLines w.kit.columns w.time message = lines := by
    rw [Logger.compilerLines, hlines]
    rfl
  unfold log
  simp only [exec_bind, exec_get, hlines]
  rw [hwritten]
  exact hput

theorem exec_log_all (messages : List String) (w : World) :
    exec (messages.forM (log .debug Compiler.logger)) w =
      (.ok (), w.write (w.logger.compilerText w.kit.columns w.time messages)) := by
  simpa [Logger.compilerText] using exec_forM_write (w := w)
    (fun message => (w.logger.compilerLines w.kit.columns w.time message).flatMap Logger.ended)
    (fun message t => by rw [exec_log, World.write_write]; rfl) messages []

end Parts

end Command
end QueryTemplate
