import Mathlib.Data.List.Forall2
import QueryTemplate.Command.Run
import QueryTemplate.Service.Request

/-! Command lines that ask for what a request asks for. -/
namespace QueryTemplate

/-- The word that gives an option a value. -/
def OptionSpec.word (o : OptionSpec) (value : String) : String := o.long ++ "=" ++ value

theorem OptionSpec.toList_word (o : OptionSpec) (value : String) :
    (o.word value).toList = '-' :: '-' :: (o.name.toList ++ '=' :: value.toList) := by
  simp [word, long]

/-- A command line asks for what a request asks for: the template, the arguments as texts of
documents, the escaper and nothing else. -/
structure CommandLine.AsksFor (line : CommandLine) (r : CompileRequest) : Prop where
  template : line.arguments = [r.template]
  args : List.Forall₂ (fun text j => Json.read text.toList = .ok j) (line.values "arg") r.args
  escaper : line.value? "escaper" = r.escaper
  plain : ∀ o ∈ line.options, o.1 = "arg" ∨ o.1 = "escaper"

namespace CommandLine

variable {line : CommandLine} {name : String}

theorem values_eq_nil (h : line.has name = false) : line.values name = [] := by
  rw [values, List.filterMap_eq_nil_iff]
  intro o ho
  rw [has, List.any_eq_false] at h
  have hne : o.1 ≠ name := by simpa using h o ho
  rw [if_neg hne]

theorem value?_eq_none (h : line.has name = false) : line.value? name = none := by
  rw [value?, values_eq_nil h]
  rfl

theorem AsksFor.has_eq_false {r : CompileRequest} (h : line.AsksFor r) (harg : name ≠ "arg")
    (hescaper : name ≠ "escaper") : line.has name = false := by
  rw [has, List.any_eq_false]
  intro o ho
  rcases h.plain o ho with heq | heq <;> rw [heq]
  · simpa using harg.symm
  · simpa using hescaper.symm

section Words

variable {o : OptionSpec} {specs : List OptionSpec} {mixed : Bool}

theorem takeWhile_word (hname : '=' ∉ o.name.toList) (value : Text) :
    ('-' :: '-' :: (o.name.toList ++ '=' :: value)).takeWhile (· != '=') =
      '-' :: '-' :: o.name.toList := by
  have h : ∀ c ∈ o.name.toList, (c != '=') = true := by
    intro c hc
    rw [bne_iff_ne]
    rintro rfl
    exact hname hc
  simp [List.takeWhile_append_of_pos h]

/-- A word with a long name and a value gives the option this value. -/
theorem readWord_word (hname : '=' ∉ o.name.toList)
    (hfind : specs.find? (fun o' => o'.long == o.long) = some o) (htakes : o.takesValue = true)
    (value : String) : readWord specs (o.word value).toList = .ok ([(o.name, value)], none) := by
  have hlong : String.ofList ('-' :: '-' :: o.name.toList) = o.long := by
    rw [← String.toList_inj]
    simp [OptionSpec.long]
  simp only [OptionSpec.toList_word, readWord, readLong]
  rw [takeWhile_word hname, hlong, hfind]
  simp [htakes]

theorem readWords_word (hname : '=' ∉ o.name.toList)
    (hfind : specs.find? (fun o' => o'.long == o.long) = some o) (htakes : o.takesValue = true)
    (value : String) (rest : List String) :
    readWords specs mixed (o.word value :: rest) =
      (readWords specs mixed rest).map fun c =>
        { c with options := (o.name, value) :: c.options } := by
  have hne : o.word value ≠ "--" := by
    rw [ne_eq, ← String.toList_inj, OptionSpec.toList_word]
    simp
  have hoption : isOptionWord (o.word value).toList = true := by
    rw [OptionSpec.toList_word]
    rfl
  rw [readWords, if_neg hne, if_pos hoption, readWord_word hname hfind htakes]
  rfl

end Words

end CommandLine

namespace Command

def argOption : OptionSpec := { name := "arg", short := some 'a' }

def escaperOption : OptionSpec := { name := "escaper", short := some 'e' }

end Command

namespace CompileRequest

open Command CommandLine

/-- Words for a request whose arguments have these texts. -/
def words (r : CompileRequest) (texts : List String) : List String :=
  texts.map argOption.word ++ (r.escaper.toList.map escaperOption.word ++ ["--", r.template])

/-- The command line that the words for a request make. -/
def line (r : CompileRequest) (texts : List String) : CommandLine where
  options := texts.map ((argOption.name, ·)) ++ r.escaper.toList.map ((escaperOption.name, ·))
  arguments := [r.template]

/-- Whatever the template and the texts begin with, the words are read as they are meant. -/
theorem readWords_words (r : CompileRequest) (texts : List String) :
    readWords compileOptions true (r.words texts) = .ok (r.line texts) := by
  have hend : readWords compileOptions true ["--", r.template] =
      .ok { arguments := [r.template] } := by
    rw [readWords, if_pos rfl]
  have hescaper : readWords compileOptions true
      (r.escaper.toList.map escaperOption.word ++ ["--", r.template]) = .ok (r.line []) := by
    cases hname : r.escaper with
    | none => simpa [line, hname] using hend
    | some name =>
      have hword : readWords compileOptions true [escaperOption.word name, "--", r.template] = _ :=
        readWords_word (by decide) (by decide) rfl name _
      simpa [line, hname, hend, Except.map] using hword
  induction texts with
  | nil => simpa [words] using hescaper
  | cons text texts ih =>
    have hword : readWords compileOptions true (argOption.word text :: r.words texts) = _ :=
      readWords_word (by decide) (by decide) rfl text _
    rw [ih] at hword
    simpa [words, line, Except.map] using hword

/-- Every request can be asked for in words, given texts of its arguments. -/
theorem asksFor_line {r : CompileRequest} {texts : List String}
    (h : List.Forall₂ (fun text j => Json.read text.toList = .ok j) texts r.args) :
    (r.line texts).AsksFor r where
  template := rfl
  args := by
    have hvalues : (r.line texts).values "arg" = texts := by
      simp [values, line, List.filterMap_append, List.filterMap_map, argOption, escaperOption]
    rw [hvalues]
    exact h
  escaper := by
    have hvalues : (r.line texts).values "escaper" = r.escaper.toList := by
      simp [values, line, List.filterMap_append, List.filterMap_map, argOption, escaperOption]
    rw [value?, hvalues]
    cases r.escaper <;> rfl
  plain := by
    intro o ho
    rcases List.mem_append.1 ho with ho | ho <;> obtain ⟨_, -, rfl⟩ := List.mem_map.1 ho
    · exact Or.inl rfl
    · exact Or.inr rfl

end CompileRequest

/-- A toolkit hands the words after a command's name over to the command, which finds in them what
a request asks for. -/
structure Toolkit.HandsOver (kit : Toolkit) (words : List String) (r : CompileRequest) : Prop where
  group : kit.readWords Command.groupOptions false ("compile" :: words) =
    .ok { arguments := "compile" :: words }
  line : ∃ line, kit.readWords Command.compileOptions true words = .ok line ∧ line.AsksFor r

theorem Toolkit.standard_handsOver {r : CompileRequest} {texts : List String}
    (h : List.Forall₂ (fun text j => Json.read text.toList = .ok j) texts r.args) :
    Toolkit.standard.HandsOver (r.words texts) r where
  group := by
    change CommandLine.readWords _ _ _ = _
    rw [CommandLine.readWords, if_neg (by decide), if_neg (by decide)]
    rfl
  line := ⟨r.line texts, r.readWords_words texts, CompileRequest.asksFor_line h⟩

end QueryTemplate
