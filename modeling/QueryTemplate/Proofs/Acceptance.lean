import QueryTemplate.Proofs.Escaping

/-! Which values a placeholder takes, and which strings are escaped for a value that it takes or
refuses. -/
namespace QueryTemplate

namespace Value

/-- Can the value stand by itself: no value, a boolean, a finite number or a text? -/
def isScalar : Value → Bool
  | .null | .skip | .bool _ | .int _ | .text _ => true
  | .float x => x.isFinite
  | _ => false

/-- Is the value a name: a text that is not empty? -/
def isName : Value → Bool
  | .text (_ :: _) => true
  | _ => false

def string? : Value → Option Text
  | .text s => some s
  | _ => none

end Value

/-- The strings of an assignment: its key, and its value if that is one. -/
def entryStrings (entry : Key × Value) : List Text := entry.1.write :: entry.2.string?.toList

namespace Kind

/-- Does a placeholder of the kind take the value? -/
def accepts : Kind → Value → Bool
  | .integer, .bool _ | .integer, .int _ => true
  | .integer, v => v.isNull
  | .float, .float x => x.isFinite
  | .float, v => v.isNull
  | .array, .list vs | .array, .tuple vs => vs.all Value.isScalar
  | .array, .map _ entries => entries.all (·.2.isScalar)
  | .array, _ => false
  | .identifier, .list vs | .identifier, .tuple vs => vs.all Value.isName
  | .identifier, v => v.isName
  | .any, v => v.isScalar

/-- The strings of a value that is taken, each of which is to be escaped once. -/
def strings : Kind → Value → List Text
  | .array, .list vs | .array, .tuple vs => vs.filterMap Value.string?
  | .array, .map _ entries =>
    match ArrayShape.ofKeys (entries.map (·.1)) with
    | .list => (entries.map (·.2)).filterMap Value.string?
    | .map => entries.flatMap entryStrings
  | .identifier, .list vs | .identifier, .tuple vs => vs.filterMap Value.string?
  | .identifier, v | .any, v => v.string?.toList
  | _, _ => []

/-- The strings of a value that is refused which are escaped before that shows: of an array those
before the item at fault, with its key if keys are written. -/
def stringsBefore : Kind → Value → List Text
  | .array, .list vs | .array, .tuple vs => (vs.takeWhile Value.isScalar).filterMap Value.string?
  | .array, .map _ entries =>
    match ArrayShape.ofKeys (entries.map (·.1)) with
    | .list => ((entries.map (·.2)).takeWhile Value.isScalar).filterMap Value.string?
    | .map =>
      (entries.takeWhile (·.2.isScalar)).flatMap entryStrings ++
        ((entries.find? (!·.2.isScalar)).map (·.1.write)).toList
  | _, _ => []

end Kind

/-- Is it the value of a placeholder with this token that is refused? -/
def Refusal.OfValue (token : Text) : Refusal → Prop
  | .invalidValue t _ | .invalidType _ t => t = token
  | _ => False

/-- A value is taken, all its strings having been escaped, or refused, these having been. -/
structure Escaping.Decides {β : Type} (x : Escaping β) (token : Text) (taken : Bool)
    (strings before : List Text) : Prop where
  ok : taken = true → ∃ b, x = ⟨strings, .ok b⟩
  refused : taken = false → ∃ r, Refusal.OfValue token r ∧ x = ⟨before, .error (.refusal r)⟩

namespace Escaping.Decides

variable {α β : Type} {x : Escaping α} {token : Text} {taken : Bool} {strings before : List Text}

theorem of_pure (b : β) : (pure b : Escaping β).Decides token true [] before :=
  ⟨fun _ => ⟨b, rfl⟩, fun h => absurd h.symm Bool.false_ne_true⟩

theorem of_refuse {r : Refusal} (h : r.OfValue token) :
    (refuse r : Escaping β).Decides token false strings [] :=
  ⟨fun h => absurd h Bool.false_ne_true, fun _ => ⟨r, h, rfl⟩⟩

theorem of_escape (e : Escaper) (s : Text) : (escape e s).Decides token true [s] before :=
  ⟨fun _ => ⟨e.escape s, rfl⟩, fun h => absurd h.symm Bool.false_ne_true⟩

theorem of_ite {c : Bool} {x y : Escaping β} (hx : x.Decides token true strings before)
    (hy : y.Decides token false strings before) :
    (if c then x else y).Decides token c strings before := by
  cases c with
  | true => exact hx
  | false => exact hy

/-- What follows without escaping changes neither the verdict nor the account. -/
theorem bind_pure (h : x.Decides token taken strings before) (f : α → β) :
    (x >>= fun a => pure (f a)).Decides token taken strings before where
  ok ht := by
    obtain ⟨a, rfl⟩ := h.ok ht
    exact ⟨f a, by rw [bind_of_ok rfl, raw_pure, List.append_nil, result_pure]⟩
  refused ht := by
    obtain ⟨r, hr, rfl⟩ := h.refused ht
    exact ⟨r, hr, bind_of_error rfl _⟩

/-- What was escaped already comes first, whatever the verdict. -/
theorem after {earlier : List Text} {a : α} {f : α → Escaping β} (hx : x = ⟨earlier, .ok a⟩)
    (h : (f a).Decides token taken strings before) :
    (x >>= f).Decides token taken (earlier ++ strings) (earlier ++ before) where
  ok ht := by
    obtain ⟨b, hb⟩ := h.ok ht
    exact ⟨b, by rw [hx, bind_of_ok rfl, hb]⟩
  refused ht := by
    obtain ⟨r, hr, hfa⟩ := h.refused ht
    exact ⟨r, hr, by rw [hx, bind_of_ok rfl, hfa]⟩

end Escaping.Decides

namespace Format

open Escaping (Decides)

section Each

variable {α β : Type} {f : α → Escaping β} {g : α → List Text}

theorem each_of_ok {l : List α} (h : ∀ a ∈ l, ∃ b, f a = ⟨g a, .ok b⟩) :
    ∃ bs, each f l = ⟨l.flatMap g, .ok bs⟩ := by
  induction l with
  | nil => exact ⟨[], rfl⟩
  | cons a l ih =>
    obtain ⟨⟨b, hb⟩, hl⟩ := List.forall_mem_cons.1 h
    obtain ⟨bs, hbs⟩ := ih hl
    refine ⟨b :: bs, ?_⟩
    rw [each, hb, Escaping.bind_of_ok rfl, hbs, Escaping.bind_of_ok rfl, List.flatMap_cons]
    simp

/-- What is recorded up to the first that fails, and its own part. -/
theorem each_of_error {before : List α} (after : List α) {a : α} {part : List Text}
    {error : CompileError} (hbefore : ∀ b ∈ before, ∃ c, f b = ⟨g b, .ok c⟩)
    (ha : f a = ⟨part, .error error⟩) :
    each f (before ++ a :: after) = ⟨before.flatMap g ++ part, .error error⟩ := by
  induction before with
  | nil => rw [List.nil_append, each, ha, Escaping.bind_of_error rfl, List.flatMap_nil,
      List.nil_append]
  | cons b before ih =>
    obtain ⟨⟨c, hc⟩, hrest⟩ := List.forall_mem_cons.1 hbefore
    rw [List.cons_append, each, hc, Escaping.bind_of_ok rfl, ih hrest,
      Escaping.bind_of_error rfl, List.flatMap_cons, List.append_assoc]

theorem exists_first_of_not_all {p : α → Bool} {l : List α} (h : l.all p = false) :
    ∃ before a after, l = before ++ a :: after ∧ (∀ b ∈ before, p b = true) ∧ p a = false := by
  obtain ⟨c, hc, hpc⟩ := List.all_eq_false.1 h
  have hfirst : (l.find? (!p ·)).isSome := List.find?_isSome.2 ⟨c, hc, by simpa using hpc⟩
  obtain ⟨a, ha⟩ := Option.isSome_iff_exists.1 hfirst
  obtain ⟨hpa, before, after, rfl, hb⟩ := List.find?_eq_some_iff_append.1 ha
  exact ⟨before, a, after, rfl, by simpa using hb, by simpa using hpa⟩

/-- The first item that is refused decides; what is escaped are the strings of the items before it
and the part that is its own. -/
theorem decides_each {token : Text} {taken : α → Bool} {part : α → List Text}
    (h : ∀ a, (f a).Decides token (taken a) (g a) (part a)) (l : List α) :
    (each f l).Decides token (l.all taken) (l.flatMap g)
      ((l.takeWhile taken).flatMap g ++ ((l.find? (!taken ·)).map part).getD []) where
  ok hall := each_of_ok fun a ha => (h a).ok (List.all_eq_true.1 hall a ha)
  refused hall := by
    obtain ⟨before, a, after, rfl, hbefore, ha⟩ := exists_first_of_not_all hall
    obtain ⟨r, hr, hfa⟩ := (h a).refused ha
    have htake : (before ++ a :: after).takeWhile taken = before := by
      rw [List.takeWhile_append_of_pos hbefore, List.takeWhile_cons_of_neg (by simp [ha]),
        List.append_nil]
    have hfind : (before ++ a :: after).find? (!taken ·) = some a := by
      rw [List.find?_append, List.find?_eq_none.2 (by simpa using hbefore), Option.none_or,
        List.find?_cons_of_pos (by simp [ha])]
    refine ⟨r, hr, ?_⟩
    rw [htake, hfind]
    exact each_of_error after (fun b hb => (h b).ok (hbefore b hb)) hfa

/-- Items that escape nothing when they are refused. -/
theorem decides_each_of_nil {token : Text} {taken : α → Bool}
    (h : ∀ a, (f a).Decides token (taken a) (g a) []) (l : List α) :
    (each f l).Decides token (l.all taken) (l.flatMap g) ((l.takeWhile taken).flatMap g) := by
  have hnone : ((l.find? (!taken ·)).map fun _ => ([] : List Text)).getD [] = [] := by
    cases l.find? (!taken ·) <;> rfl
  have hl := decides_each h l
  rwa [hnone, List.append_nil] at hl

end Each

variable (e : Escaper) (token : Text)

theorem decides_literal (s : Text) {before : List Text} :
    (literal e s).Decides token true [s] before :=
  (Decides.of_escape e s).bind_pure _

theorem decides_name (s : Text) {before : List Text} : (name e s).Decides token true [s] before :=
  (Decides.of_escape e s).bind_pure _

theorem decides_scalar (v : Value) :
    (scalar e token v).Decides token v.isScalar v.string?.toList [] := by
  cases v with
  | null | skip | bool _ | int _ => exact .of_pure _
  | float x => exact .of_ite (.of_pure _) (.of_refuse rfl)
  | text s => exact decides_literal e token s
  | list _ | tuple _ | map _ _ | other _ _ _ => exact .of_refuse rfl

theorem decides_items (vs : List Value) :
    (items e token vs).Decides token (vs.all Value.isScalar) (vs.filterMap Value.string?)
      ((vs.takeWhile Value.isScalar).filterMap Value.string?) := by
  rw [List.filterMap_eq_flatMap_toList, List.filterMap_eq_flatMap_toList]
  exact (decides_each_of_nil (decides_scalar e token) vs).bind_pure joined

/-- The key is escaped before its value is looked at. -/
theorem decides_assignment (entry : Key × Value) :
    (assignment e token entry).Decides token entry.2.isScalar (entryStrings entry)
      [entry.1.write] :=
  Decides.after rfl ((decides_scalar e token entry.2).bind_pure _)

theorem decides_assignments (entries : List (Key × Value)) :
    (assignments e token entries).Decides token (entries.all (·.2.isScalar))
      (entries.flatMap entryStrings) ((entries.takeWhile (·.2.isScalar)).flatMap entryStrings ++
        ((entries.find? (!·.2.isScalar)).map (·.1.write)).toList) := by
  have hlast : ((entries.find? (!·.2.isScalar)).map fun entry => [entry.1.write]).getD [] =
      ((entries.find? (!·.2.isScalar)).map (·.1.write)).toList := by
    cases entries.find? (!·.2.isScalar) <;> rfl
  rw [← hlast]
  exact (decides_each (decides_assignment e token) entries).bind_pure joined

theorem decides_array (v : Value) :
    (array e token v).Decides token (Kind.array.accepts v) (Kind.array.strings v)
      (Kind.array.stringsBefore v) := by
  cases v with
  | list vs | tuple vs => exact decides_items e token vs
  | map typeName entries =>
    simp only [array, Kind.accepts, Kind.strings, Kind.stringsBefore]
    cases ArrayShape.ofKeys (entries.map (·.1)) with
    | list =>
      have h := decides_items e token (entries.map (·.2))
      rwa [List.all_map] at h
    | map => exact decides_assignments e token entries
  | null | skip | bool _ | int _ | float _ | text _ | other _ _ _ => exact .of_refuse rfl

theorem decides_itemName (v : Value) : (itemName token v).Decides token v.isName [] [] := by
  cases v with
  | text s =>
    cases s with
    | nil => exact .of_refuse rfl
    | cons c s => exact .of_pure _
  | null | skip | bool _ | int _ | float _ | list _ | tuple _ | map _ _ | other _ _ _ =>
    exact .of_refuse rfl

theorem each_itemName {vs : List Value} (h : vs.all Value.isName = true) :
    each (itemName token) vs = pure (vs.filterMap Value.string?) := by
  induction vs with
  | nil => rfl
  | cons v vs ih =>
    rw [List.all_cons, Bool.and_eq_true] at h
    obtain ⟨hv, hvs⟩ := h
    cases v with
    | text s =>
      cases s with
      | nil => exact absurd hv Bool.false_ne_true
      | cons c s =>
        have hname : itemName token (.text (c :: s)) = pure (c :: s) := rfl
        rw [each_cons_of_pure hname, ih hvs, map_pure]
        rfl
    | null | skip | bool _ | int _ | float _ | list _ | tuple _ | map _ _ | other _ _ _ =>
      exact absurd hv Bool.false_ne_true

/-- All items are looked at before the first is escaped. -/
theorem decides_names (vs : List Value) :
    (names e token vs).Decides token (vs.all Value.isName) (vs.filterMap Value.string?) [] := by
  cases hall : vs.all Value.isName with
  | true =>
    refine ⟨fun _ => ?_, fun h => absurd h.symm Bool.false_ne_true⟩
    have hparts : ∃ parts, each (name e) (vs.filterMap Value.string?) =
        ⟨(vs.filterMap Value.string?).flatMap fun s => [s], .ok parts⟩ :=
      each_of_ok fun s _ => ⟨_, rfl⟩
    obtain ⟨parts, hparts⟩ := hparts
    rw [List.flatMap_singleton'] at hparts
    refine ⟨joined parts, ?_⟩
    rw [names, each_itemName token hall, pure_bind, hparts, Escaping.bind_of_ok rfl,
      Escaping.raw_pure, List.append_nil, Escaping.result_pure]
  | false =>
    obtain ⟨r, hr, hitems⟩ := (decides_each_of_nil (decides_itemName token) vs).refused hall
    refine ⟨fun h => absurd h Bool.false_ne_true, fun _ => ⟨r, hr, ?_⟩⟩
    rw [names, hitems, Escaping.bind_of_error rfl]
    simp

theorem decides_identifier (v : Value) :
    (identifier e token v).Decides token (Kind.identifier.accepts v) (Kind.identifier.strings v)
      (Kind.identifier.stringsBefore v) := by
  cases v with
  | list vs | tuple vs => exact decides_names e token vs
  | text s =>
    cases s with
    | nil => exact .of_refuse rfl
    | cons c s => exact decides_name e token (c :: s)
  | null | skip | bool _ | int _ | float _ | map _ _ | other _ _ _ => exact .of_refuse rfl

theorem decides_integer (v : Value) :
    (integer token v).Decides token (Kind.integer.accepts v) (Kind.integer.strings v)
      (Kind.integer.stringsBefore v) := by
  cases v with
  | null | skip | bool _ | int _ => exact .of_pure _
  | float _ | text _ | list _ | tuple _ | map _ _ | other _ _ _ => exact .of_refuse rfl

theorem decides_float (v : Value) :
    (float token v).Decides token (Kind.float.accepts v) (Kind.float.strings v)
      (Kind.float.stringsBefore v) := by
  cases v with
  | null | skip => exact .of_pure _
  | float x => exact .of_ite (.of_pure _) (.of_refuse rfl)
  | bool _ | int _ | text _ | list _ | tuple _ | map _ _ | other _ _ _ => exact .of_refuse rfl

end Format

/-- A specifier of a kind takes just the values that the kind accepts. -/
theorem Specifier.decides_format {s : Specifier} {k : Kind} (hk : s.kind = some k) (e : Escaper)
    (v : Value) :
    (s.format e v).Decides s.token (k.accepts v) (k.strings v) (k.stringsBefore v) := by
  unfold Specifier.format
  rw [hk]
  cases k with
  | integer => exact Format.decides_integer s.token v
  | float => exact Format.decides_float s.token v
  | array => exact Format.decides_array e s.token v
  | identifier => exact Format.decides_identifier e s.token v
  | any => exact Format.decides_scalar e s.token v

end QueryTemplate
