import Mathlib.Data.List.Basic
import QueryTemplate.Directory

/-! What a directory holds after a run of registrations, and what its names and aliases lead to. -/
namespace QueryTemplate

variable {α : Type}

namespace Registration

/-- The last registration under a name. -/
def latest? (rs : List (Registration α)) (name : String) : Option (Registration α) :=
  rs.reverse.find? fun r => r.name == name

/-- The last registration that claims an alias. -/
def claiming? (rs : List (Registration α)) (a : String) : Option (Registration α) :=
  rs.reverse.find? fun r => r.aliases.contains a

/-- The name that a name or alias stands for: that under which it was claimed last as an alias, or
else itself. -/
def standsFor (rs : List (Registration α)) (name : String) : String :=
  ((claiming? rs name).map (·.name)).getD name

/-- The registration that a name or alias leads to. -/
def found? (rs : List (Registration α)) (name : String) : Option (Registration α) :=
  latest? rs (standsFor rs name)

/-- What is listed for a registration under a name. -/
def entry (name : String) (r : Registration α) : Metadata :=
  Assoc.putAll r.metadata [("name", .string name), ("description", .string r.component.description)]

/-- What is listed for a name. -/
def listed (rs : List (Registration α)) (name : String) : Metadata :=
  ((found? rs name).map (entry name)).getD []

variable {rs : List (Registration α)} {r : Registration α} {n : String}

theorem latest?_append_one (rs : List (Registration α)) (r : Registration α) (n : String) :
    latest? (rs ++ [r]) n = if n = r.name then some r else latest? rs n := by
  rw [latest?, List.reverse_append, List.reverse_singleton, List.singleton_append, List.find?_cons]
  by_cases h : n = r.name
  · simp [h]
  · have h' : (r.name == n) = false := beq_eq_false_iff_ne.2 fun e => h e.symm
    rw [h', if_neg h]
    rfl

theorem claiming?_append_one (rs : List (Registration α)) (r : Registration α) (a : String) :
    claiming? (rs ++ [r]) a = if a ∈ r.aliases then some r else claiming? rs a := by
  rw [claiming?, List.reverse_append, List.reverse_singleton, List.singleton_append,
    List.find?_cons]
  by_cases h : a ∈ r.aliases
  · simp [h]
  · have h' : r.aliases.contains a = false := by simpa using h
    rw [h', if_neg h]
    rfl

theorem latest?_isSome_iff : (latest? rs n).isSome ↔ n ∈ rs.map (·.name) := by
  rw [latest?, List.find?_isSome, List.mem_map]
  simp only [List.mem_reverse, beq_iff_eq]

theorem claiming?_isSome_iff : (claiming? rs n).isSome ↔ ∃ r ∈ rs, n ∈ r.aliases := by
  rw [claiming?, List.find?_isSome]
  simp only [List.mem_reverse, List.contains_iff_mem]

theorem mem_of_claiming? (h : claiming? rs n = some r) : r ∈ rs :=
  List.mem_reverse.1 (List.mem_of_find?_eq_some h)

theorem standsFor_of_claiming? (h : claiming? rs n = some r) : standsFor rs n = r.name := by
  rw [standsFor, h]
  rfl

theorem standsFor_of_unclaimed (h : claiming? rs n = none) : standsFor rs n = n := by
  rw [standsFor, h]
  rfl

/-- A name that no registration under another name claims stands for itself. -/
theorem standsFor_eq_self (h : ∀ r ∈ rs, n ∈ r.aliases → r.name = n) : standsFor rs n = n := by
  cases hclaim : claiming? rs n with
  | none => exact standsFor_of_unclaimed hclaim
  | some r =>
    have hmem : n ∈ r.aliases := by simpa using List.find?_some hclaim
    rw [standsFor_of_claiming? hclaim, h r (mem_of_claiming? hclaim) hmem]

/-- No alias leads nowhere: the name it was claimed under is registered. -/
theorem found?_isSome_iff :
    (found? rs n).isSome ↔ n ∈ rs.map (·.name) ∨ (claiming? rs n).isSome := by
  rw [found?, latest?_isSome_iff]
  cases hclaim : claiming? rs n with
  | none => simp [standsFor_of_unclaimed hclaim]
  | some r =>
    rw [standsFor_of_claiming? hclaim]
    exact iff_of_true (List.mem_map_of_mem (mem_of_claiming? hclaim)) (Or.inr rfl)

theorem listed_of_found (h : found? rs n = some r) : listed rs n = r.entry n := by
  rw [listed, h]
  rfl

theorem lookup_entry_of_not_mem {field : String} (h : field ∉ r.metadata.map (·.1)) :
    (r.entry n).lookup field =
      [("name", Json.string n), ("description", .string r.component.description)].lookup field := by
  have hnone : r.metadata.reverse.lookup field = none := by
    rw [← Option.not_isSome_iff_eq_none, Assoc.lookup_isSome_iff, List.map_reverse,
      List.mem_reverse]
    exact h
  rw [entry, Assoc.lookup_putAll, hnone, Option.none_or]

end Registration

namespace Directory

open Registration

private theorem eraseDups_concat (l : List String) (a : String) :
    (l ++ [a]).eraseDups = if a ∈ l then l.eraseDups else l.eraseDups ++ [a] := by
  have hone : [a].eraseDups = [a] := rfl
  rw [List.eraseDups_append]
  by_cases h : a ∈ l <;> simp [List.removeAll, h, hone]

/-- A directory holds what a run of registrations has put there, and nothing else. -/
structure Holds (d : Directory α) (rs : List (Registration α)) : Prop where
  names : d.names = (rs.map (·.name)).eraseDups
  noted : d.metadata.map (·.1) = d.names
  component : ∀ n, d.items.lookup n = (latest? rs n).map (·.component)
  metadata : ∀ n, d.metadata.lookup n = (latest? rs n).map (·.metadata)
  claimed : ∀ a, d.aliases.lookup a = (claiming? rs a).map (·.name)
  once : (d.aliases.map (·.1)).Nodup

theorem holds_nil : ({} : Directory α).Holds [] where
  names := rfl
  noted := rfl
  component _ := rfl
  metadata _ := rfl
  claimed _ := rfl
  once := List.nodup_nil

namespace Holds

variable {d : Directory α} {rs : List (Registration α)}

theorem mem_names_iff (h : d.Holds rs) {n : String} : n ∈ d.names ↔ n ∈ rs.map (·.name) := by
  rw [h.names, List.mem_eraseDups]

/-- One more registration: its name keeps the place it has or comes last, its aliases are taken
from whom they belonged to, and all else stays. -/
theorem register (h : d.Holds rs) (r : Registration α) : (d.register r).Holds (rs ++ [r]) where
  names := by
    have hnew : (d.register r).names =
        if r.name ∈ d.names then d.names else d.names ++ [r.name] := Assoc.map_fst_put _ _ _
    rw [hnew, List.map_append, List.map_singleton, eraseDups_concat, ← h.names]
    exact if_congr h.mem_names_iff rfl rfl
  noted := by
    have hnoted := h.noted
    change (Assoc.put r.name r.metadata d.metadata).map (·.1) =
      (Assoc.put r.name r.component d.items).map (·.1)
    rw [Assoc.map_fst_put, Assoc.map_fst_put, hnoted]
    rfl
  component n := by
    change (Assoc.put r.name r.component d.items).lookup n = _
    rw [Assoc.lookup_put, latest?_append_one, h.component]
    split <;> rfl
  metadata n := by
    change (Assoc.put r.name r.metadata d.metadata).lookup n = _
    rw [Assoc.lookup_put, latest?_append_one, h.metadata]
    split <;> rfl
  claimed a := by
    have hadded : (r.aliases.map fun a => (a, r.name)).reverse.lookup a =
        if a ∈ r.aliases then some r.name else none := by
      rw [← List.map_reverse, Assoc.lookup_map_const]
      exact if_congr List.mem_reverse rfl rfl
    change (Assoc.putAll _ d.aliases).lookup a = _
    rw [Assoc.lookup_putAll, hadded, claiming?_append_one, h.claimed]
    split <;> rfl
  once := Assoc.nodup_putAll _ h.once

theorem registerAll (h : d.Holds rs) (more : List (Registration α)) :
    (d.registerAll more).Holds (rs ++ more) := by
  induction more generalizing d rs with
  | nil => rwa [List.append_nil]
  | cons r more ih =>
    have hrest := ih (h.register r)
    rwa [List.append_assoc, List.singleton_append] at hrest

/-- Later registrations take no name away and move none. -/
theorem names_prefix (h : d.Holds rs) (more : List (Registration α)) :
    d.names <+: (d.registerAll more).names := by
  rw [(h.registerAll more).names, List.map_append, List.eraseDups_append, ← h.names]
  exact List.prefix_append _ _

theorem mem_aliases_iff (h : d.Holds rs) {a n : String} :
    (a, n) ∈ d.aliases ↔ ∃ r, claiming? rs a = some r ∧ r.name = n := by
  rw [Assoc.mem_iff_lookup h.once, h.claimed, Option.map_eq_some_iff]

theorem mem_map_aliases_iff (h : d.Holds rs) {a : String} :
    a ∈ d.aliases.map (·.1) ↔ (claiming? rs a).isSome := by
  rw [← Assoc.lookup_isSome_iff, h.claimed, Option.isSome_map]

/-- An alias stands for a registered name, which is never looked up as an alias in its turn. -/
theorem mem_names_of_alias (h : d.Holds rs) {a n : String} (ha : (a, n) ∈ d.aliases) :
    n ∈ d.names := by
  obtain ⟨r, hr, rfl⟩ := h.mem_aliases_iff.1 ha
  exact h.mem_names_iff.2 (List.mem_map_of_mem (mem_of_claiming? hr))

theorem resolve_eq (h : d.Holds rs) (n : String) : d.resolve n = standsFor rs n := by
  rw [resolve, h.claimed]
  rfl

theorem lookup_resolve (h : d.Holds rs) (n : String) :
    d.items.lookup (d.resolve n) = (found? rs n).map (·.component) := by
  rw [h.component, h.resolve_eq]
  rfl

theorem isRegistered_iff (h : d.Holds rs) {n : String} :
    d.isRegistered n = true ↔ n ∈ d.names ∨ n ∈ d.aliases.map (·.1) := by
  rw [isRegistered, h.lookup_resolve, Option.isSome_map, found?_isSome_iff, h.mem_names_iff,
    h.mem_map_aliases_iff]

theorem isRegistered_eq (h : d.Holds rs) (n : String) :
    d.isRegistered n = (found? rs n).isSome := by
  rw [isRegistered, h.lookup_resolve, Option.isSome_map]

theorem exists_found (h : d.Holds rs) {n : String} (hn : n ∈ d.names) :
    ∃ r, found? rs n = some r :=
  Option.isSome_iff_exists.1 (found?_isSome_iff.2 (Or.inl (h.mem_names_iff.1 hn)))

section Found

variable {r : Registration α} {n : String}

theorem get_of_found (h : d.Holds rs) (hr : found? rs n = some r) : d.get n = .ok r.component := by
  rw [get, h.lookup_resolve, hr]
  rfl

theorem get_of_not_found (h : d.Holds rs) (hn : found? rs n = none) :
    d.get n = .error (.notFound n d.names) := by
  rw [get, h.lookup_resolve, hn]
  rfl

theorem create_of_found (h : d.Holds rs) (hr : found? rs n = some r) (arguments : Nat) :
    d.create n arguments = if r.component.parameters.length = arguments then .ok r.component
      else .error .wrongArguments := by
  rw [create, h.get_of_found hr]
  rfl

theorem createNamed_of_found (h : d.Holds rs) (hr : found? rs n = some r)
    (arguments : List String) :
    d.createNamed n arguments = if arguments.isPerm r.component.parameters then .ok r.component
      else .error .wrongArguments := by
  rw [createNamed, h.get_of_found hr]
  rfl

theorem metadataOf_of_found (h : d.Holds rs) (hr : found? rs n = some r) :
    d.metadataOf n = r.metadata := by
  have hnote : d.metadata.lookup (d.resolve n) = (found? rs n).map (·.metadata) := by
    rw [h.metadata, h.resolve_eq]
    rfl
  rw [metadataOf, hnote, hr]
  rfl

theorem entry_of_found (h : d.Holds rs) (hr : found? rs n = some r) :
    d.entry n = .ok (r.entry n) := by
  rw [Directory.entry, h.get_of_found hr, h.metadataOf_of_found hr]
  rfl

end Found

/-- Every registered name leads to a registration, so all of them are listed. -/
theorem list_eq (h : d.Holds rs) : d.list = .ok (d.names.map (listed rs)) := by
  have hall : ∀ names : List String, (∀ n ∈ names, n ∈ d.names) →
      names.mapM d.entry = .ok (names.map (listed rs)) := by
    intro names hnames
    induction names with
    | nil => rfl
    | cons n names ih =>
      obtain ⟨hn, hrest⟩ := List.forall_mem_cons.1 hnames
      obtain ⟨r, hr⟩ := h.exists_found hn
      rw [List.mapM_cons, h.entry_of_found hr, ih hrest, List.map_cons, listed_of_found hr]
      rfl
  exact hall d.names fun _ hn => hn

end Holds

theorem holds_registerAll (rs : List (Registration α)) :
    (({} : Directory α).registerAll rs).Holds rs := holds_nil.registerAll rs

/-- After any run of registrations every alias stands for a registered name, the one that claimed
it last; names stay, in the order of their first registration, and whatever is registered can be
got and listed. -/
theorem registerAll_sound (rs more : List (Registration α)) :
    let d := ({} : Directory α).registerAll rs
    let later := ({} : Directory α).registerAll (rs ++ more)
    (d.names = (rs.map (·.name)).eraseDups ∧ d.metadata.map (·.1) = d.names) ∧
    ((d.aliases.map (·.1)).Nodup ∧ (∀ a n, (a, n) ∈ d.aliases → n ∈ d.names) ∧
      ∀ a n, (a, n) ∈ d.aliases ↔ ∃ r, claiming? rs a = some r ∧ r.name = n) ∧
    (d.names <+: later.names ∧ ∀ n, d.isRegistered n = true → later.isRegistered n = true) ∧
    (∀ n, d.isRegistered n = true ↔ n ∈ d.names ∨ n ∈ d.aliases.map (·.1)) ∧
    (∀ n, (d.isRegistered n = true ∧ ∃ c, d.get n = .ok c) ∨
      d.isRegistered n = false ∧ d.get n = .error (.notFound n d.names)) ∧
    ∃ entries, d.list = .ok entries ∧ entries.length = d.names.length := by
  intro d later
  have h : d.Holds rs := holds_registerAll rs
  have hlater : later.Holds (rs ++ more) := holds_registerAll (rs ++ more)
  have hsplit : later = d.registerAll more := List.foldl_append
  have hkept : ∀ n, d.isRegistered n = true → later.isRegistered n = true := by
    intro n hn
    rw [h.isRegistered_eq, found?_isSome_iff, claiming?_isSome_iff] at hn
    rw [hlater.isRegistered_eq, found?_isSome_iff, claiming?_isSome_iff, List.map_append]
    rcases hn with hn | ⟨r, hr, hn⟩
    · exact Or.inl (List.mem_append_left _ hn)
    · exact Or.inr ⟨r, List.mem_append_left _ hr, hn⟩
  have hget : ∀ n, (d.isRegistered n = true ∧ ∃ c, d.get n = .ok c) ∨
      d.isRegistered n = false ∧ d.get n = .error (.notFound n d.names) := by
    intro n
    rw [h.isRegistered_eq]
    cases hfound : found? rs n with
    | some r => exact Or.inl ⟨rfl, r.component, h.get_of_found hfound⟩
    | none => exact Or.inr ⟨rfl, h.get_of_not_found hfound⟩
  refine ⟨⟨h.names, h.noted⟩, ⟨h.once, fun _ _ => h.mem_names_of_alias, fun _ _ => h.mem_aliases_iff⟩,
    ⟨hsplit ▸ h.names_prefix more, hkept⟩, fun _ => h.isRegistered_iff, hget,
    d.names.map (listed rs), h.list_eq, List.length_map _⟩

/-- A registered name leads to the last registration under the name that it stands for, which is
the name itself unless a registration under another name claims it as an alias. -/
theorem registerAll_resolves (rs : List (Registration α)) {i : Nat} {n : String}
    (hn : (({} : Directory α).registerAll rs).names[i]? = some n) :
    let d := ({} : Directory α).registerAll rs
    ((∀ r ∈ rs, n ∈ r.aliases → r.name = n) → standsFor rs n = n) ∧
    ∃ r, latest? rs (standsFor rs n) = some r ∧
      d.get n = .ok r.component ∧
      (∀ count, d.create n count = if r.component.parameters.length = count then .ok r.component
        else .error .wrongArguments) ∧
      (∀ names, d.createNamed n names = if names.isPerm r.component.parameters
        then .ok r.component else .error .wrongArguments) ∧
      d.metadataOf n = r.metadata ∧
      ∃ entries e, d.list = .ok entries ∧ entries[i]? = some e ∧
        e = Assoc.putAll r.metadata
          [("name", .string n), ("description", .string r.component.description)] ∧
        ("name" ∉ r.metadata.map (·.1) → e.lookup "name" = some (.string n)) ∧
        ("description" ∉ r.metadata.map (·.1) →
          e.lookup "description" = some (.string r.component.description)) := by
  intro d
  have h : d.Holds rs := holds_registerAll rs
  obtain ⟨r, hr⟩ := h.exists_found (List.mem_of_getElem? hn)
  have hentry : (d.names.map (listed rs))[i]? = some (r.entry n) := by
    rw [List.getElem?_map, hn, Option.map_some, listed_of_found hr]
  exact ⟨standsFor_eq_self, r, hr, h.get_of_found hr, h.create_of_found hr,
    h.createNamed_of_found hr, h.metadataOf_of_found hr, _, _, h.list_eq, hentry, rfl,
    lookup_entry_of_not_mem, lookup_entry_of_not_mem⟩

/-- Two registrations, of which the second claims the name of the first as an alias. -/
def shadowing : List (Registration Unit) :=
  [{ name := "a", component := { label := "A", description := "first", make := () } },
    { name := "b", component := { label := "B", description := "second", make := () },
      aliases := ["a"], metadata := [("description", .string "noted")] }]

theorem registerAll_resolves_shadowed :
    let d := ({} : Directory Unit).registerAll shadowing
    d.names[0]? = some "a" ∧ standsFor shadowing "a" = "b" ∧
    ∃ r, latest? shadowing "b" = some r ∧ d.get "a" = .ok r.component ∧
      d.metadataOf "a" = r.metadata ∧
      ∃ entries e, d.list = .ok entries ∧ entries[0]? = some e ∧
        e.lookup "name" = some (.string "a") := by
  intro d
  have hn : d.names[0]? = some "a" := by decide
  have hb : standsFor shadowing "a" = "b" := by decide
  obtain ⟨-, r, hr, hget, -, -, hnoted, entries, e, hlist, he, -, hname, -⟩ :=
    registerAll_resolves shadowing hn
  rw [hb] at hr
  obtain rfl : _ = r := Option.some.inj hr
  exact ⟨hn, hb, _, rfl, hget, hnoted, entries, e, hlist, he, hname (by decide)⟩

/-- A registered name need not lead to the registration under it, and what is listed for a name need
not be the description of what it leads to. -/
theorem not_get_latest :
    (¬ ∀ (rs : List (Registration Unit)) (n : String),
      n ∈ (({} : Directory Unit).registerAll rs).names → ∃ r, latest? rs n = some r ∧
        (({} : Directory Unit).registerAll rs).get n = .ok r.component) ∧
    ¬ ∀ (rs : List (Registration Unit)) (i : Nat) (n : String),
      (({} : Directory Unit).registerAll rs).names[i]? = some n → ∃ c entries e,
        (({} : Directory Unit).registerAll rs).get n = .ok c ∧
        (({} : Directory Unit).registerAll rs).list = .ok entries ∧ entries[i]? = some e ∧
        e.lookup "description" = some (.string c.description) := by
  refine ⟨fun h => ?shadowed, fun h => ?noted⟩
  case shadowed =>
    obtain ⟨r, hr, hget⟩ := h shadowing "a" (by decide)
    have hfirst : "A" = r.component.label := congrArg (·.component.label) (Option.some.inj hr)
    have hsecond : "B" = r.component.label := congrArg (·.label) (Except.ok.inj hget)
    exact absurd (hfirst.trans hsecond.symm) (by decide)
  case noted =>
    obtain ⟨c, entries, e, hget, hlist, he, hlisted⟩ := h shadowing 0 "a" (by decide)
    have hsecond : "second" = c.description := congrArg (·.description) (Except.ok.inj hget)
    have hnoted : some (Json.string "noted") = e.lookup "description" := by
      rw [← Except.ok.inj hlist] at he
      rw [← Option.some.inj he]
      rfl
    rw [hlisted, ← hsecond] at hnoted
    exact absurd (Json.string.inj (Option.some.inj hnoted)) (by decide)

end Directory
end QueryTemplate
