import CallFlow.Proofs.Graph.Attempt
import CallFlow.Proofs.Json.Ordered
import CallFlow.Proofs.Text.Trim

/-!
# Routes for digits

Pressed digits lose their blank ends before they are looked up among the routes of a block; the keys
of the routes keep theirs. So digits follow the route whose key is their trimmed text, and a route
whose key begins or ends with a blank is as good as missing: no digits lead to it, not even those
that spell its key.
-/

namespace CallFlow
set_option autoImplicit false

open Json (Value Fields mem_of_lookup lookup_of_mem)

def Config.Routes (config : Fields) (key target : String) : Prop :=
  ∃ fields, config.get? "routes" = some (.object fields) ∧ (key, .string target) ∈ fields

/-- Where a call goes on: at the first block of an id, or nowhere if there is none. -/
structure Compiler.GoesTo (compiler : Compiler) (blocks : List Block) (id target : String)
    (result : Except CompileError Script) : Prop where
  found : ∀ next, findBlock? blocks target = some next →
    result = compiler.scriptFrom blocks (some next) ∧
      ∀ script, result = .ok script → script.entry = some target
  missing : findBlock? blocks target = none →
    result = .ok ⟨.graph, none, [], [], .danglingConnection id target⟩

namespace Config

variable {config : Fields} {key target : String}

theorem mem_routes_iff : (key, target) ∈ routes config "routes" ↔ Routes config key target := by
  unfold routes Routes
  constructor
  · intro hmem
    split at hmem
    next fields hfields =>
      obtain ⟨⟨name, value⟩, hfield, hvalue⟩ := List.mem_filterMap.mp hmem
      cases value with
      | string id =>
        cases hvalue
        exact ⟨fields, hfields, hfield⟩
      | _ => cases hvalue
    next => cases hmem
  · rintro ⟨fields, hfields, hfield⟩
    rw [hfields]
    exact List.mem_filterMap.mpr ⟨_, hfield, rfl⟩

theorem nodup_routes (hconfig : (Value.object config).Distinct) :
    ((routes config "routes").map Prod.fst).Nodup := by
  unfold routes
  split
  next fields hfields =>
    have hdistinct : Fields.Distinct fields := (hconfig.get? hfields).here
    refine List.Nodup.sublist ?_ hdistinct
    clear hfields hdistinct
    induction fields with
    | nil => exact List.Sublist.refl _
    | cons field fields ih =>
      obtain ⟨name, value⟩ := field
      cases value with
      | string id => exact ih.cons_cons name
      | _ => exact ih.cons name
  next => exact List.nodup_nil

end Config

theorem lookup_filter {α : Type} {p : String → Bool} {key : String} (hkey : p key = true)
    (entries : List (String × α)) :
    (entries.filter fun entry => p entry.1).lookup key = entries.lookup key := by
  induction entries with
  | nil => rfl
  | cons entry entries ih =>
    obtain ⟨name, a⟩ := entry
    rw [List.lookup_cons, List.filter_cons]
    split
    next => rw [List.lookup_cons, ih]
    next hname =>
      have hne : key ≠ name := by
        rintro rfl
        exact hname hkey
      rw [beq_false_of_ne hne]
      exact ih

namespace Action

variable {config : Fields} {digits target : String}

theorem nextBlock?_of_routes (hconfig : (Value.object config).Distinct)
    (h : Config.Routes config (Text.trim digits) target) (connections : List String) :
    nextBlock? (Config.routes config "routes") digits connections = some target := by
  rw [nextBlock?, lookup_of_mem (Config.nodup_routes hconfig) (Config.mem_routes_iff.mpr h),
    Option.some_or]

theorem nextBlock?_of_not_routes (h : ∀ target, ¬ Config.Routes config (Text.trim digits) target)
    (connections : List String) :
    nextBlock? (Config.routes config "routes") digits connections = connections.head? := by
  cases hlookup : (Config.routes config "routes").lookup (Text.trim digits) with
  | none => rw [nextBlock?, hlookup, Option.none_or]
  | some target => exact absurd (Config.mem_routes_iff.mp (mem_of_lookup hlookup)) (h target)

/-- Routes count only if their keys neither begin nor end with a blank. -/
theorem nextBlock?_trimmed (routes : List (String × String)) (digits : String)
    (connections : List String) :
    nextBlock? routes digits connections =
      nextBlock? (routes.filter fun route => Text.trim route.1 == route.1) digits connections := by
  have htrimmed : (Text.trim (Text.trim digits) == Text.trim digits) = true :=
    beq_iff_eq.mpr (Text.trim_trim digits)
  rw [nextBlock?, nextBlock?, lookup_filter (p := fun key => Text.trim key == key) htrimmed]

end Action

namespace Compiler

variable {compiler : Compiler} {blocks : List Block} {b : Block} {id digits target : String}

theorem goesTo_of_leadsTo (h : compiler.LeadsTo blocks id digits (some target)) :
    compiler.GoesTo blocks id target (compiler.resume (.graph blocks) id digits) where
  found next hnext := by
    have hresume := resume_of_leadsTo h hnext
    refine ⟨hresume, fun script hscript => ?_⟩
    obtain ⟨path, -, hfollows⟩ := exists_path_of_scriptFrom (findBlock?_id_of_findBlock? hnext)
      (hresume.symm.trans hscript)
    rw [hfollows.entry, id_of_findBlock? hnext]
  missing hmissing := resume_of_leadsTo_missing h hmissing

/-- Digits at a gather block follow the route whose key is their trimmed text, to its block if that
is there, and take the first connection only if there is no such route. So a key that neither begins
nor ends with a blank is followed by whoever presses it. No other key is the trimmed text of any
digits, and its route may as well be left out. -/
theorem resume_follows_routes (compiler : Compiler) {blocks : List Block} {b : Block} {id : String}
    (hfound : findBlock? blocks id = some b)
    (hkind : compiler.registry.resolve? b.kindName = some .gather)
    (hconfig : (Value.object b.config).Distinct) :
    ∃ prompt numDigits timeout routes voicing,
      compiler.registry.action b = .ok (.gather prompt numDigits timeout routes voicing) ∧
      (∀ key target digits, Config.Routes b.config key target → Text.trim digits = key →
        (∀ connections, Action.nextBlock? routes digits connections = some target) ∧
        compiler.GoesTo blocks id target (compiler.resume (.graph blocks) id digits)) ∧
      (∀ digits, (∀ target, ¬ Config.Routes b.config (Text.trim digits) target) →
        (∀ connections, Action.nextBlock? routes digits connections = connections.head?) ∧
        ∀ target, b.connections.head? = some target →
          compiler.GoesTo blocks id target (compiler.resume (.graph blocks) id digits)) ∧
      (∀ key, (∃ digits, Text.trim digits = key) ↔ Text.Trimmed key.toList) ∧
      ∀ digits connections, Action.nextBlock? routes digits connections =
        Action.nextBlock? (routes.filter fun route => Text.trim route.1 == route.1) digits
          connections := by
  have haction := Registry.action_of_some hkind
  refine ⟨_, _, _, _, _, haction, ?_, ?_, fun key => ?_, fun digits connections => ?_⟩
  · rintro key target digits hroutes rfl
    have hnext := Action.nextBlock?_of_routes hconfig hroutes
    exact ⟨hnext, goesTo_of_leadsTo ⟨b, _, hfound, haction, hnext b.connections⟩⟩
  · intro digits hnone
    have hnext := Action.nextBlock?_of_not_routes hnone
    refine ⟨hnext, fun target htarget => ?_⟩
    exact goesTo_of_leadsTo ⟨b, _, hfound, haction, (hnext b.connections).trans htarget⟩
  · exact Text.exists_trim_eq_iff.trans Text.trim_eq_self_iff
  · exact Action.nextBlock?_trimmed _ digits connections

def desk : Block where
  id := "desk"
  kindName := "gather"
  config := [("prompt", .string "Press one"), ("routes", .object
    [(" 3", .string "mail"), ("1", .string "sales"), ("2", .string "lost")])]
  connections := ["main"]
  position := none

def deskBlocks : List Block := [desk,
  ⟨"sales", "hangup", [], [], none⟩,
  ⟨"mail", "record", [], [], none⟩,
  ⟨"main", "pause", [], [], none⟩]

theorem resume_follows_routes_desk :
    findBlock? deskBlocks "desk" = some desk ∧
    (ofOptions {}).registry.resolve? desk.kindName = some .gather ∧
    (Value.object desk.config).Distinct ∧
    Config.Routes desk.config "1" "sales" ∧ Text.trim " 1" = "1" ∧
    (ofOptions {}).resume (.graph deskBlocks) "desk" " 1" =
      .ok ⟨.graph, some "sales", [.hangup], [⟨"sales", .hangup, 1⟩], .hangup "sales"⟩ ∧
    Config.Routes desk.config "2" "lost" ∧
    (ofOptions {}).resume (.graph deskBlocks) "desk" "2" =
      .ok ⟨.graph, none, [], [], .danglingConnection "desk" "lost"⟩ := by
  have hfound : findBlock? deskBlocks "desk" = some desk := rfl
  have hkind : (ofOptions {}).registry.resolve? desk.kindName = some .gather := by decide
  have hconfig : (Value.object desk.config).Distinct := by
    refine .object (by decide) (List.forall_mem_cons.mpr ⟨.string _, ?_⟩)
    exact List.forall_mem_singleton.mpr
      (.object (by decide) (by simp [Value.Throughout.string]))
  have hone : Config.Routes desk.config "1" "sales" := Config.mem_routes_iff.mp (by decide)
  have htwo : Config.Routes desk.config "2" "lost" := Config.mem_routes_iff.mp (by decide)
  have htrim : Text.trim " 1" = "1" := by decide +kernel
  obtain ⟨_, _, _, _, _, -, htaken, -⟩ := resume_follows_routes (ofOptions {}) hfound hkind hconfig
  refine ⟨hfound, hkind, hconfig, hone, htrim, ?_, htwo, ?_⟩
  · refine (((htaken _ _ _ hone htrim).2.found _ rfl).1).trans ?_
    decide +kernel
  · exact (htaken _ _ "2" htwo (by decide +kernel)).2.missing rfl

/-- The route of a key with a blank in front is lost: whoever presses the key, with the blank or
without it, goes to the first connection. -/
theorem resume_loses_route_of_blank_key :
    Config.Routes desk.config " 3" "mail" ∧ (∃ b, findBlock? deskBlocks "mail" = some b) ∧
    (∀ digits ∈ [" 3", "3"],
      Action.nextBlock? (Config.routes desk.config "routes") digits desk.connections =
        some "main" ∧
      (ofOptions {}).resume (.graph deskBlocks) "desk" digits =
        .ok ⟨.graph, some "main", [.pause 2], [⟨"main", .pause, 1⟩], .endOfFlow "main"⟩) := by
  refine ⟨Config.mem_routes_iff.mp (by decide), ⟨_, rfl⟩, ?_⟩
  decide +kernel

end Compiler
end CallFlow
