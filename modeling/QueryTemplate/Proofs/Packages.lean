import QueryTemplate.Command.Toolkit
import QueryTemplate.Proofs.Configured
import QueryTemplate.Proofs.Encoding
import QueryTemplate.Proofs.Matching
import QueryTemplate.Service.Answer

/-! What is relied on of the packages that the program is built on, and that what it runs with here
keeps to it. -/
namespace QueryTemplate

/-- What is relied on of a toolkit. -/
structure Toolkit.Documented (kit : Toolkit) : Prop where
  /-- A line is changed only where it has sequences that would steer a terminal. -/
  plain_of_not_mem : ∀ text, Control.escape ∉ text → kit.plain text = text
  /-- These sequences have no surrogates in them. -/
  isEncodable_plain : ∀ text, (kit.plain text).isEncodable = text.isEncodable

/-- What is relied on of a framework. -/
structure Framework.Documented (web : Framework) : Prop where
  find : ∀ e : Endpoint, web.find? e.path = some e
  /-- The fields of an answer take what can be written. -/
  takes : ∀ text, web.takes text = text.isEncodable
  /-- So do those of a request. -/
  read : ∀ body r, web.read body = .ok r → Text.isEncodable r.template.toList = true ∧
    ∀ name ∈ r.escaper, Text.isEncodable name.toList = true

/-- What is relied on of the loading of settings: their fields take what can be written. -/
structure Configuration.Documented (c : Configuration) : Prop where
  escaper : ∀ s, c.get.2 = .ok s → Text.isEncodable s.compiler.escaper.toList = true

namespace Control

theorem matcher_of_ne {c : Char} (h : c ≠ escape) (rest : Text) : matcher (c :: rest) = [] := by
  unfold matcher length?
  split
  · simp_all
  · rfl

/-- A text without the escape character has no sequences. -/
theorem strip_of_not_mem {text : Text} (h : escape ∉ text) : strip text = text := by
  change matcher.replaceFrom (fun _ => []) 0 text = text
  induction text with
  | nil => rfl
  | cons c text ih =>
    have hc : c ≠ escape := fun heq => h (heq ▸ List.mem_cons_self)
    rw [Matcher.replaceFrom_cons_of_none (matcher_of_ne hc text),
      ih fun hmem => h (List.mem_cons_of_mem c hmem)]

theorem isStandIn_of_isParameter {c : Char} (h : isParameter c = true) :
    Text.isStandIn c = false := by
  unfold isParameter at h
  simp only [Bool.or_eq_true, beq_iff_eq] at h
  rcases h with (rfl | rfl) | h
  · decide
  · decide
  · exact Text.isStandIn_of_isDigit h

/-- A sequence is of characters that can be written. -/
theorem isEncodable_of_length? {text : Text} {k : Nat} (h : length? text = some k) :
    0 < k ∧ Text.isEncodable (text.take k) = true := by
  unfold length? at h
  split at h
  next c rest =>
    dsimp only at h
    split_ifs at h with hsequence
    obtain ⟨rfl, hletter⟩ := hsequence
    obtain rfl := Option.some.inj h
    obtain ⟨letter, hlast, halpha⟩ := (Option.any_eq_true _ _).1 hletter
    have hparameters : rest.take (rest.takeWhile isParameter).length = rest.takeWhile isParameter :=
      (List.prefix_iff_eq_take.1 (List.takeWhile_prefix _)).symm
    have hplain : Text.isEncodable (rest.takeWhile isParameter) = true :=
      Text.isEncodable_iff.2 fun x hx => isStandIn_of_isParameter (List.mem_takeWhile_imp hx)
    have hend : Text.isEncodable [letter] = true := by
      simp [Text.isStandIn_of_isAlpha halpha]
    refine ⟨Nat.succ_pos _, ?_⟩
    rw [List.take_succ_cons, List.take_succ_cons, List.take_add_one, hparameters, hlast]
    simp only [Text.isEncodable_cons, Text.isEncodable_append, hplain, Option.toList_some, hend]
    decide
  next => cases h

theorem isEncodable_strip (text : Text) : (strip text).isEncodable = text.isEncodable := by
  -- the characters that are still part of a sequence are not written
  have hfrom (text : Text) (taken : Nat) :
      Text.isEncodable (matcher.replaceFrom (fun _ => []) taken text) =
        Text.isEncodable (text.drop taken) := by
    induction text generalizing taken with
    | nil => cases taken <;> rfl
    | cons c rest ih =>
      cases taken with
      | succ taken => exact ih taken
      | zero =>
        cases hlength : length? (c :: rest) with
        | none =>
          have hnone : matcher (c :: rest) = [] := by rw [matcher, hlength]; rfl
          have hrest := ih 0
          rw [List.drop_zero] at hrest
          rw [Matcher.replaceFrom_cons_of_none hnone, List.drop_zero, Text.isEncodable_cons, hrest,
            Text.isEncodable_cons]
        | some k =>
          obtain ⟨hk, htaken⟩ := isEncodable_of_length? hlength
          have hone : matcher (c :: rest) = [k] := by rw [matcher, hlength]; rfl
          have hsplit : c :: rest = (c :: rest).take k ++ rest.drop (k - 1) := by
            obtain ⟨n, rfl⟩ : ∃ n, k = n + 1 := ⟨k - 1, by omega⟩
            exact (congrArg (c :: ·) (List.take_append_drop n rest)).symm
          rw [Matcher.replaceFrom_cons_of_one hone hk, List.nil_append, ih, List.drop_zero]
          rw [hsplit, Text.isEncodable_append, htaken, Bool.true_and]
  exact hfrom text 0

end Control

theorem Toolkit.standard_documented : Toolkit.standard.Documented where
  plain_of_not_mem _ := Control.strip_of_not_mem
  isEncodable_plain := Control.isEncodable_strip

namespace Field

variable {α β : Type}

theorem ok_of_within {step : Place} {x : Except (List Issue) α} {a : α}
    (h : within step x = .ok a) : x = .ok a := by
  cases x with
  | ok b => exact h
  | error issues => cases h

theorem ok_of_both {x : Except (List Issue) α} {y : Except (List Issue) β} {p : α × β}
    (h : both x y = .ok p) : x = .ok p.1 ∧ y = .ok p.2 := by
  cases x <;> cases y <;> cases h
  exact ⟨rfl, rfl⟩

theorem isEncodable_of_string {j : Json} {s : String} (h : string j = .ok s) :
    Text.isEncodable s.toList = true := by
  unfold string at h
  split at h
  next =>
    split_ifs at h with hs
    · exact Except.ok.inj h ▸ hs
    · cases h
  next => cases h

end Field

namespace CompileRequest

/-- A field that is read is there, or has a default. -/
theorem ok_of_readField {α : Type} {fields : List (String × Json)} {name : String}
    {default : Option α} {read : Json → Except (List Issue) α} {a : α}
    (h : readField fields name default read = .ok a) : (∃ j, read j = .ok a) ∨ default = some a := by
  have hfield := Field.ok_of_within h
  cases hlookup : fields.lookup name with
  | some j =>
    rw [hlookup] at hfield
    exact Or.inl ⟨j, hfield⟩
  | none =>
    rw [hlookup] at hfield
    cases default with
    | none => cases hfield
    | some b => exact Or.inr (congrArg some (Except.ok.inj hfield))

theorem isEncodable_of_optionalString {j : Json} {name? : Option String}
    (h : optionalString j = .ok name?) : ∀ name ∈ name?, Text.isEncodable name.toList = true := by
  unfold optionalString at h
  split at h
  next =>
    obtain rfl := Except.ok.inj h
    simp
  next =>
    cases hname : Field.string j with
    | error issues =>
      rw [hname] at h
      cases h
    | ok s =>
      rw [hname] at h
      obtain rfl := Except.ok.inj h
      rintro name ⟨⟩
      exact Field.isEncodable_of_string hname

theorem isEncodable_of_ofJson {j : Json} {r : CompileRequest} (h : ofJson j = .ok r) :
    Text.isEncodable r.template.toList = true ∧
      ∀ name ∈ r.escaper, Text.isEncodable name.toList = true := by
  unfold ofJson at h
  split at h
  next => cases h
  next fields =>
    obtain ⟨⟨template, args, escaper⟩, hfields, hr⟩ := bind_eq_ok_iff.1 h
    obtain ⟨htemplate, hrest⟩ := Field.ok_of_both hfields
    obtain ⟨-, hescaper⟩ := Field.ok_of_both hrest
    obtain rfl := Except.ok.inj hr
    refine ⟨?_, ?_⟩
    · rcases ok_of_readField htemplate with ⟨j, hj⟩ | hdefault
      · exact Field.isEncodable_of_string hj
      · cases hdefault
    · rcases ok_of_readField hescaper with ⟨j, hj⟩ | hdefault
      · exact isEncodable_of_optionalString hj
      · obtain rfl := Option.some.inj hdefault
        simp
  next => cases h

theorem isEncodable_of_read {body : Option Text} {r : CompileRequest} (h : read body = .ok r) :
    Text.isEncodable r.template.toList = true ∧
      ∀ name ∈ r.escaper, Text.isEncodable name.toList = true := by
  unfold read at h
  split at h
  next => cases h
  next => cases h
  next =>
    split at h
    next => cases h
    next document _ =>
      split at h
      next request hdocument =>
        obtain rfl := Except.ok.inj h
        exact isEncodable_of_ofJson hdocument
      next => cases h

end CompileRequest

namespace Settings

variable {env : Environment} {file : Option Text} {given : List (String × Json)}

theorem ok_of_liftIssues {α : Type} {x : Except (List Issue) α} {a : α}
    (h : liftIssues x = .ok a) : x = .ok a := by
  cases x with
  | ok b => exact congrArg Except.ok (Except.ok.inj h)
  | error issues => cases h

theorem ok_of_readField {α : Type} {values : List (String × Json)} {name : String}
    {read : Json → Except (List Issue) α} {default a : α}
    (h : readField values name read default = .ok a) : (∃ j, read j = .ok a) ∨ default = a := by
  unfold readField at h
  split at h
  next j _ => exact Or.inl ⟨j, Field.ok_of_within h⟩
  next => exact Or.inr (Except.ok.inj h)

theorem isEncodable_of_loadCompiler {s : CompilerSettings} (h : loadCompiler env given = .ok s) :
    Text.isEncodable s.escaper.toList = true := by
  obtain ⟨values, -, hvalues⟩ := bind_eq_ok_iff.1 h
  obtain ⟨⟨escaper, strict⟩, hfields, hs⟩ := bind_eq_ok_iff.1 hvalues
  obtain ⟨hescaper, -⟩ := Field.ok_of_both (ok_of_liftIssues hfields)
  obtain rfl := Except.ok.inj hs
  rcases ok_of_readField hescaper with ⟨j, hj⟩ | rfl
  · exact Field.isEncodable_of_string hj
  · have hdefault : Text.isEncodable "mysql".toList = true := by decide
    exact hdefault

theorem ok_of_loadGroup {α : Type} {g : Group}
    {load : List (String × Json) → Except SettingsError α} {j : Option Json} {a : α}
    (h : loadGroup g load j = .ok (.ok a)) : ∃ given, load given = .ok a := by
  unfold loadGroup at h
  split at h
  next =>
    cases hload : load [] with
    | error e =>
      rw [hload] at h
      cases h
    | ok b =>
      rw [hload] at h
      obtain rfl : b = a := Except.ok.inj (Except.ok.inj h)
      exact ⟨[], hload⟩
  next given =>
    split at h
    next b hload =>
      obtain rfl : b = a := Except.ok.inj (Except.ok.inj h)
      exact ⟨given, hload⟩
    next => cases h
    next => cases h
  next => cases h

/-- The name of the escaper in settings that load can be written. -/
theorem isEncodable_of_load {s : Settings} (h : load env file = .ok s) :
    Text.isEncodable s.compiler.escaper.toList = true := by
  unfold load at h
  -- Of all that is read and loaded only the settings of the compiler count.
  obtain ⟨_, -, h⟩ := bind_eq_ok_iff.1 h
  obtain ⟨_, -, h⟩ := bind_eq_ok_iff.1 h
  obtain ⟨_, -, h⟩ := bind_eq_ok_iff.1 h
  obtain ⟨_, -, h⟩ := bind_eq_ok_iff.1 h
  obtain ⟨_, -, h⟩ := bind_eq_ok_iff.1 h
  obtain ⟨_, -, h⟩ := bind_eq_ok_iff.1 h
  obtain ⟨compiler, hcompiler, h⟩ := bind_eq_ok_iff.1 h
  obtain ⟨_, -, h⟩ := bind_eq_ok_iff.1 h
  obtain ⟨_, -, h⟩ := bind_eq_ok_iff.1 h
  obtain ⟨⟨found, _, _⟩, hboth, h⟩ := bind_eq_ok_iff.1 h
  obtain ⟨hfound, -⟩ := Field.ok_of_both (ok_of_liftIssues hboth)
  obtain rfl := Except.ok.inj h
  rw [hfound] at hcompiler
  obtain ⟨given, hgiven⟩ := ok_of_loadGroup hcompiler
  exact isEncodable_of_loadCompiler hgiven

end Settings

theorem Configuration.documented_of_load {c : Configuration} (hcached : c.cached = none)
    (hloads : c.loads = Settings.load) : c.Documented where
  escaper s hs := by
    rw [get_snd, hcached] at hs
    have hload : Settings.load c.environment c.file = .ok s := hloads ▸ hs
    exact Settings.isEncodable_of_load hload

theorem Framework.standard_read : Framework.standard.read = CompileRequest.read := rfl

theorem Framework.standard_documented : Framework.standard.Documented where
  find e := by cases e <;> decide
  takes _ := rfl
  read _ _ := CompileRequest.isEncodable_of_read

end QueryTemplate
