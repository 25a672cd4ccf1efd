import Mathlib
import ResourceLookup.DocumentTypes
import ResourceLookup.Proofs.Chain.Absence

/-!
# Entities served in place of their declared ones

Known names are compared in lower case. The first entry whose name occurs in a system identifier
decides under which name the entity is served. Entries whose names differ in case alone are one
entry, though: it has the place of the first of them and the resource of the last. An entity that
is not known, or whose resource cannot be had, is left where it is declared.
-/

namespace ResourceLookup

/-! ## What a map of pairs finds -/

namespace OrderedMap

variable {α β : Type} [DecidableEq α]

theorem ofPairs_concat (ps : List (α × β)) (p : α × β) :
    ofPairs (ps ++ [p]) = put p.1 p.2 (ofPairs ps) := by
  rw [ofPairs, List.foldl_append]
  rfl

theorem get?_ofPairs (k : α) (ps : List (α × β)) :
    get? k (ofPairs ps) = (ps.reverse.find? fun p => p.1 = k).map (·.2) := by
  induction ps using List.reverseRecOn with
  | nil => rfl
  | append_singleton ps p ih =>
    rw [ofPairs_concat, get?_put, List.reverse_concat, List.find?_cons, ih]
    by_cases h : p.1 = k <;> simp [h]

theorem find?_keys_ofPairs (q : α → Bool) (ps : List (α × β)) :
    (keys (ofPairs ps)).find? q = (ps.map (·.1)).find? q := by
  induction ps using List.reverseRecOn with
  | nil => rfl
  | append_singleton ps p ih =>
    rw [ofPairs_concat, keys_put, List.map_append, List.find?_append, ← ih]
    split
    · next hk =>
      cases hq : q p.1 with
      | false => simp [hq]
      | true =>
        obtain ⟨k, hfind⟩ := Option.isSome_iff_exists.1 (List.find?_isSome.2 ⟨p.1, hk, hq⟩)
        simp [hfind]
    · rw [List.find?_append]
      rfl

theorem find?_eq_get? (q : α → Bool) (m : OrderedMap α β) :
    (m.find? fun p => q p.1).map (·.2) = ((keys m).find? q).bind fun k => get? k m := by
  induction m with
  | nil => rfl
  | cons p r ih =>
    rw [keys, List.map_cons, List.find?_cons, List.find?_cons]
    cases hq : q p.1 with
    | true => simp [get?]
    | false =>
      rw [ih]
      refine Option.bind_congr fun k hk => ?_
      have hne : p.1 ≠ k := by
        rintro rfl
        rw [List.find?_some hk] at hq
        cases hq
      rw [get?, if_neg hne]

end OrderedMap

namespace DocumentTypes

variable {names before rest : OrderedMap Text Text} {first : Text × Text} {systemId resource : Text}

/-! ## Which resource is served -/

def Mentions (systemId name : Text) : Prop := name.lower <:+: systemId.lower

/-- The last entry with the name of `first`, in any case, where `rest` are the entries after it. -/
def lastOfName (first : Text × Text) (rest : OrderedMap Text Text) : Text × Text :=
  (rest.reverse.find? fun p => p.1.lower = first.1.lower).getD first

def Unknown (names : OrderedMap Text Text) (systemId : Text) : Prop :=
  systemId = [] ∨ ∀ p ∈ names, ¬Mentions systemId p.1

structure Decides (names : OrderedMap Text Text) (systemId : Text)
    (before : OrderedMap Text Text) (first : Text × Text) (rest : OrderedMap Text Text) : Prop where
  split : names = before ++ first :: rest
  nonempty : systemId ≠ []
  earlier : ∀ p ∈ before, ¬Mentions systemId p.1
  mentioned : Mentions systemId first.1

theorem lastOfName_eq_first (h : ∀ p ∈ rest, p.1.lower ≠ first.1.lower) :
    lastOfName first rest = first := by
  have hnone : (rest.reverse.find? fun p => p.1.lower = first.1.lower) = none := by
    simpa [List.find?_eq_none] using h
  rw [lastOfName, hnone]
  rfl

theorem resourceFor_ofMap (names : OrderedMap Text Text) (systemId : Text) :
    (ofMap names).resourceFor systemId =
      if systemId = [] then none
      else (names.find? fun p => Text.hasInfix p.1.lower systemId.lower).bind fun first =>
        (names.reverse.find? fun p => p.1.lower = first.1.lower).map (·.2) := by
  rw [resourceFor, ofMap]
  simp only [List.isEmpty_iff]
  congr 1
  rw [OrderedMap.find?_eq_get? (fun k => Text.hasInfix k systemId.lower),
    OrderedMap.find?_keys_ofPairs, List.map_map, List.find?_map, Option.bind_map]
  refine Option.bind_congr fun first _ => ?_
  simp only [Function.comp_apply, OrderedMap.get?_ofPairs, ← List.map_reverse, List.find?_map,
    Option.map_map]
  rfl

theorem resourceFor_of_unknown (h : Unknown names systemId) :
    (ofMap names).resourceFor systemId = none := by
  rw [resourceFor_ofMap]
  rcases h with hempty | hnone
  · rw [if_pos hempty]
  · have hfind : (names.find? fun p => Text.hasInfix p.1.lower systemId.lower) = none :=
      List.find?_eq_none.2 fun p hp hin => hnone p hp (Text.hasInfix_iff.1 hin)
    rw [hfind, Option.bind_none, ite_self]

theorem resourceFor_of_decides (h : Decides names systemId before first rest) :
    (ofMap names).resourceFor systemId = some (lastOfName first rest).2 := by
  obtain ⟨rfl, hne, hbefore, hfirst⟩ := h
  have hfind : ((before ++ first :: rest).find? fun p => Text.hasInfix p.1.lower systemId.lower) =
      some first := by
    refine List.find?_eq_some_iff_append.2 ⟨Text.hasInfix_iff.2 hfirst, before, rest, rfl, ?_⟩
    intro p hp
    rw [Bool.not_eq_true', ← Bool.not_eq_true, Text.hasInfix_iff]
    exact hbefore p hp
  rw [resourceFor_ofMap, if_neg hne, hfind, Option.bind_some, List.reverse_append,
    List.reverse_cons, List.append_assoc, List.find?_append, lastOfName]
  cases rest.reverse.find? fun p => p.1.lower = first.1.lower <;> simp

theorem unknown_or_decides (names : OrderedMap Text Text) (systemId : Text) :
    Unknown names systemId ∨ ∃ before first rest, Decides names systemId before first rest := by
  by_cases hempty : systemId = []
  · exact .inl (.inl hempty)
  · cases hfind : names.find? fun p => Text.hasInfix p.1.lower systemId.lower with
    | none =>
      exact .inl (.inr fun p hp hin => List.find?_eq_none.1 hfind p hp (Text.hasInfix_iff.2 hin))
    | some first =>
      obtain ⟨hfirst, before, rest, hnames, hbefore⟩ := List.find?_eq_some_iff_append.1 hfind
      refine .inr ⟨before, first, rest, hnames, hempty, fun p hp hin => ?_,
        Text.hasInfix_iff.1 hfirst⟩
      have hout := hbefore p hp
      rw [Text.hasInfix_iff.2 hin] at hout
      cases hout

/-! ## What comes of it -/

inductive Follows (publicId : Option Text) (systemId : Text) :
    EStateM.Result Fault World StreamId → EStateM.Result Fault World EntitySource → Prop
  | served (id : StreamId) (v : World) :
    Follows publicId systemId (.ok id v) (.ok (.served ⟨systemId, publicId, id⟩) v)
  | declared {f : Fault} (ordinary : f.isOrdinary = true) (v : World) (line : LogLine) :
    Follows publicId systemId (.error f v)
      (.ok (.declared systemId) { v with log := v.log ++ [line] })
  | through {f : Fault} (urgent : f.isOrdinary = false) (v : World) :
    Follows publicId systemId (.error f v) (.error f v)

theorem resolve_follows {d : DocumentTypes} (h : d.resourceFor systemId = some resource)
    (c : Along Resolver) (publicId : Option Text) (w : World) :
    Follows publicId systemId (Access.getStream c resource w)
      (d.resolve c publicId systemId w) := by
  simp only [resolve, h]
  cases hget : Access.getStream c resource w with
  | ok id v => exact .served id v
  | error f v =>
    dsimp only
    split
    · next hf => exact .declared hf v _
    · next hf => exact .through (Bool.not_eq_true _ ▸ hf) v

/-- An entity whose system identifier mentions no name is left where it is declared. Else the
first name that it mentions decides, and the last entry of that name has the resource: the first
entry itself unless the name comes again in another case. -/
theorem resolve_entity (names : OrderedMap Text Text) (c : Along Resolver)
    (publicId : Option Text) (systemId : Text) (w : World) :
    (Unknown names systemId ∧
      (ofMap names).resolve c publicId systemId w = .ok (.declared systemId) w) ∨
    ∃ before first rest, Decides names systemId before first rest ∧
      Follows publicId systemId (Access.getStream c (lastOfName first rest).2 w)
        ((ofMap names).resolve c publicId systemId w) ∧
      ((∀ p ∈ rest, p.1.lower ≠ first.1.lower) → lastOfName first rest = first) := by
  rcases unknown_or_decides names systemId with hunknown | ⟨before, first, rest, hdecides⟩
  · refine .inl ⟨hunknown, ?_⟩
    simp only [resolve, resourceFor_of_unknown hunknown]
    rfl
  · exact .inr ⟨before, first, rest, hdecides,
      resolve_follows (resourceFor_of_decides hdecides) c publicId w, lastOfName_eq_first⟩

def twoResources : World :=
  { World.startIn { tree := [], cwd := [] } with
    mappings := [(text "m", [(text "x", .characters (text "1")),
      (text "y", .characters (text "2"))])] }

def twoResourcesLoader : Along Resolver := ⟨⟨none, none⟩, some (.mapping (text "m"))⟩

theorem resolve_entity_served :
    ∃ v, (ofMap [(text "b.dtd", text "y"), (text "A.dtd", text "x")]).resolve twoResourcesLoader
        (some (text "-//A")) (text "http://h/a.DTD") twoResources =
      .ok (.served ⟨text "http://h/a.DTD", some (text "-//A"), 0⟩) v := by
  have hresource : (ofMap [(text "b.dtd", text "y"), (text "A.dtd", text "x")]).resourceFor
      (text "http://h/a.DTD") = some (text "x") := by cbv
  obtain ⟨v, hget⟩ : ∃ v, Access.getStream twoResourcesLoader (text "x") twoResources = .ok 0 v :=
    ⟨_, by cbv⟩
  rcases resolve_entity [(text "b.dtd", text "y"), (text "A.dtd", text "x")] twoResourcesLoader
    (some (text "-//A")) (text "http://h/a.DTD") twoResources with
    ⟨hunknown, -⟩ | ⟨before, first, rest, hdecides, hfollows, -⟩
  · rw [resourceFor_of_unknown hunknown] at hresource
    cases hresource
  · rw [resourceFor_of_decides hdecides] at hresource
    rw [Option.some.inj hresource, hget] at hfollows
    generalize DocumentTypes.resolve _ _ _ _ _ = x at hfollows ⊢
    cases hfollows
    exact ⟨v, rfl⟩

/-- The first of two entries whose names differ in case alone is not the one that is served. -/
theorem resolve_entity_not_first :
    ¬∀ (names : OrderedMap Text Text) (c : Along Resolver) (publicId : Option Text)
      (systemId : Text) (w : World) (before : OrderedMap Text Text) (first : Text × Text)
      (rest : OrderedMap Text Text), names.keys.Nodup →
        Decides names systemId before first rest →
        Follows publicId systemId (Access.getStream c first.2 w)
          ((ofMap names).resolve c publicId systemId w) := by
  intro h
  have hdecides : Decides [(text "A.dtd", text "x"), (text "a.dtd", text "y")] (text "a.dtd") []
      (text "A.dtd", text "x") [(text "a.dtd", text "y")] :=
    ⟨rfl, by decide, by simp, Text.hasInfix_iff.1 (by cbv)⟩
  have hfollows := h _ twoResourcesLoader none _ twoResources _ _ _ (by decide) hdecides
  have hfirst : (after (Access.getStream twoResourcesLoader (text "x"))
      twoResources).streams = [.ofOctets .memory [0x31]] := by cbv
  have hserved : (after ((ofMap [(text "A.dtd", text "x"), (text "a.dtd", text "y")]).resolve
      twoResourcesLoader none (text "a.dtd")) twoResources).streams =
      [.ofOctets .memory [0x32]] := by cbv
  unfold after at hfirst hserved
  generalize Access.getStream _ _ _ = x, DocumentTypes.resolve _ _ _ _ _ = y
    at hfollows hfirst hserved
  have hsame : [Stream.ofOctets .memory [0x31]] = [.ofOctets .memory [0x32]] := by
    cases hfollows with
    | served id v => exact hfirst.symm.trans hserved
    | declared _ v line => exact hfirst.symm.trans hserved
    | through _ v => exact hfirst.symm.trans hserved
  exact absurd hsame (by decide)

end DocumentTypes
end ResourceLookup
