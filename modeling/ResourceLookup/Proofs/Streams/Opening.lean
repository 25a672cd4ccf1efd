import ResourceLookup.Access
import ResourceLookup.Proofs.Outcomes

/-!
# How many streams a lookup opens

Streams are numbered in the order in which they are opened, and every closing of one is counted.
A resolver opens a stream only when it answers with it, and then no other one. A chain stops at
the first answer, so along a chain one stream is opened at most, and what is logged or imported or
configured on the way touches no stream.
-/

namespace ResourceLookup

def World.Opens (w : World) (closes : Nat) (v : World) : Prop :=
  ∃ s : Stream, v.streams = w.streams ++ [s] ∧ s.closes = closes

namespace Lookup

variable {α β : Type} {w v : World} {e : Fault} {a : α}

theorem reading_ok {f : Surroundings → Except Fault α} (h : f w.around = .ok a) :
    reading f w = .ok a w := by
  rw [reading, h]
  rfl

theorem ok_of_reading {f : Surroundings → Except Fault α} (h : reading f w = .ok a v) :
    f w.around = .ok a ∧ v = w := by
  rw [reading] at h
  cases hf : f w.around with
  | ok b =>
    rw [hf] at h
    cases h
    exact ⟨rfl, rfl⟩
  | error e =>
    rw [hf] at h
    cases h

theorem importing_ok {f : Surroundings → Import α} {m : ModuleSpace}
    (h : f w.around w.modules = .ok a m) : importing f w = .ok a { w with modules := m } := by
  simp only [importing, h]

theorem importing_error {f : Surroundings → Import α} {m : ModuleSpace}
    (h : f w.around w.modules = .error e m) : importing f w = .error e { w with modules := m } := by
  simp only [importing, h]

/-! ## Work that touches no stream -/

def Still (f : Lookup α) : Prop := ∀ w, (after f w).streams = w.streams

theorem Still.ok {f : Lookup α} (hf : Still f) (h : f w = .ok a v) : v.streams = w.streams := by
  rw [← after_ok h]
  exact hf w

theorem Still.error {f : Lookup α} (hf : Still f) (h : f w = .error e v) :
    v.streams = w.streams := by
  rw [← after_error h]
  exact hf w

theorem Still.pure (a : α) : Still (pure a : Lookup α) := fun _ => rfl

theorem Still.throw (e : Fault) : Still (throw e : Lookup α) := fun _ => rfl

theorem Still.bind {f : Lookup α} {k : α → Lookup β} (hf : Still f) (hk : ∀ a, Still (k a)) :
    Still (f >>= k) := by
  intro w
  rw [after]
  cases h : f w with
  | ok a v =>
    rw [bind_ok h, ← after, hk a v]
    exact hf.ok h
  | error e v =>
    rw [bind_error h]
    exact hf.error h

theorem Still.get_bind {k : World → Lookup α} (hk : ∀ w, Still (k w)) :
    Still ((get : Lookup World) >>= k) := fun w => hk w w

theorem Still.modify {f : World → World} (hf : ∀ w, (f w).streams = w.streams) :
    Still (modify f : Lookup PUnit) := hf

theorem Still.answer (x : Except Fault α) : Still (answer x) := by
  cases x <;> exact fun _ => rfl

theorem answer_ok {x : Except Fault α} (h : answer x w = .ok a v) : v = w := by
  cases x with
  | ok b =>
    cases h
    rfl
  | error e => cases h

theorem Still.reading (f : Surroundings → Except Fault α) : Still (reading f) :=
  fun w => Still.answer (f w.around) w

theorem Still.importing (f : Surroundings → Import α) : Still (importing f) := by
  intro w
  rw [after, Lookup.importing]
  cases f w.around w.modules <;> rfl

theorem Still.log (level : LogLevel) (message : Text) : Still (log level message) := fun _ => rfl

theorem Still.script (key : Text) : Still (script key) := by
  refine Still.get_bind fun w => ?_
  cases w.scripts.get? key with
  | some s => exact Still.pure s
  | none => exact Still.throw _

theorem script_ok {key : Text} {s : Script} (h : script key w = .ok s v) :
    v = w ∧ w.scripts.get? key = some s := by
  rw [script, get_bind_apply] at h
  cases hs : w.scripts.get? key with
  | none =>
    rw [hs] at h
    cases h
  | some s' =>
    rw [hs] at h
    cases h
    exact ⟨rfl, rfl⟩

theorem modifyScript_ok {key : Text} {s : Script} (h : w.scripts.get? key = some s)
    (f : Script → Script) :
    modifyScript key f w = .ok ⟨⟩ { w with scripts := w.scripts.put key (f s) } := by
  have hs : script key w = .ok s w := by
    rw [script, get_bind_apply, h]
    rfl
  rw [modifyScript, bind_ok hs]
  rfl

theorem Still.modifyScript (key : Text) (f : Script → Script) : Still (modifyScript key f) :=
  (Still.script key).bind fun _ => Still.modify fun _ => rfl

/-! ## Opening -/

inductive Opening (w : World) : EStateM.Result Fault World (Option StreamId) → Prop
  | silent {v : World} (streams : v.streams = w.streams) : Opening w (.ok none v)
  | opened {v : World} (opens : w.Opens 0 v) : Opening w (.ok (some w.streams.length) v)
  | failed {e : Fault} {v : World} (streams : v.streams = w.streams) : Opening w (.error e v)

theorem Opening.of_streams {x : EStateM.Result Fault World (Option StreamId)}
    (streams : v.streams = w.streams) (h : Opening v x) : Opening w x := by
  cases h with
  | silent hv => exact .silent (hv.trans streams)
  | opened opens =>
    rw [World.Opens, streams] at opens
    rw [streams]
    exact .opened opens
  | failed hv => exact .failed (hv.trans streams)

theorem Opening.bind {f : Lookup α} {k : α → Lookup (Option StreamId)} (hf : Still f)
    (hk : ∀ a v, f w = .ok a v → Opening v (k a v)) : Opening w ((f >>= k) w) := by
  cases h : f w with
  | ok a v =>
    rw [bind_ok h]
    exact (hk a v h).of_streams (hf.ok h)
  | error e v =>
    rw [bind_error h]
    exact .failed (hf.error h)

theorem newStream_closes (w : World) (holding : Holding) : (newStream w holding).closes = 0 := by
  rw [newStream]
  split <;> rfl

theorem openStream_opens (holding : Holding) (w : World) :
    ∃ v, openStream holding w = .ok w.streams.length v ∧ w.Opens 0 v ∧
      v.scripts = w.scripts :=
  ⟨_, rfl, ⟨newStream w holding, rfl, newStream_closes w holding⟩, rfl⟩

end Lookup

namespace Resolver

open Lookup

theorem openFound_opening (found : Option Holding) (w : World) :
    Opening w (openFound found w) := by
  cases found with
  | none => exact .silent rfl
  | some holding =>
    obtain ⟨v, hv, opens, -⟩ := openStream_opens holding w
    rw [openFound, bind_ok hv]
    exact .opened opens

theorem openFound_scripts {found : Option Holding} {w v : World} {id? : Option StreamId}
    (h : openFound found w = .ok id? v) : v.scripts = w.scripts := by
  cases found with
  | none =>
    cases h
    rfl
  | some holding =>
    obtain ⟨v', hv', -, scripts⟩ := openStream_opens holding w
    rw [openFound, bind_ok hv'] at h
    cases h
    exact scripts

theorem ofSpec_still (key : Text) (spec : ResolverSpec) : Still (ofSpec key spec) := by
  cases spec with
  | mapping resources =>
    exact (Still.modify fun _ => rfl).bind fun _ => Still.pure (Resolver.mapping key)
  | path path => exact (Still.reading _).bind fun _ => Still.pure _
  | scripted script =>
    exact (Still.modify fun _ => rfl).bind fun _ => Still.pure (Resolver.scripted key)
  | directory path => exact Still.pure _
  | archive path => exact Still.pure _
  | package name => exact Still.pure _
  | entries list => exact Still.pure _
  | searchPath => exact Still.pure _

theorem named_still (key : Text) : Still (named key) := by
  refine Still.get_bind fun w => ?_
  cases w.made.get? key with
  | some r => exact Still.pure r
  | none =>
    refine Still.get_bind fun w => ?_
    cases w.specs.get? key with
    | none => exact Still.throw _
    | some spec =>
      refine (ofSpec_still key spec).bind fun r => ?_
      exact (Still.modify fun _ => rfl).bind fun _ => Still.pure r

theorem takeRequest_still (key : Text) (request : Request) (name : Text) :
    Still (takeRequest key request name) := by
  refine (Still.modifyScript key _).bind fun _ => (Still.script key).bind fun s => ?_
  cases s.newDefault with
  | none =>
    cases s.faults.get? request with
    | none => exact Still.pure _
    | some f => exact Still.throw f
  | some r =>
    refine (named_still r).bind fun d => ?_
    refine (Still.modify fun _ => rfl : Still (setDefault (some d))).bind fun _ => ?_
    cases s.faults.get? request with
    | none => exact Still.pure _
    | some f => exact Still.throw f

theorem openStream_opening (r : Resolver) (name : Text) (w : World) :
    Opening w (r.openStream name w) := by
  cases r with
  | mapping key =>
    refine Opening.bind (Still.get_bind fun _ => Still.pure _) fun resources v _ => ?_
    exact Opening.bind (Still.answer _) fun found v _ => openFound_opening _ v
  | place p => exact Opening.bind (Still.reading _) fun found v _ => openFound_opening found v
  | package p => exact Opening.bind (Still.importing _) fun found v _ => openFound_opening found v
  | entries list => exact Opening.bind (Still.reading _) fun found v _ => openFound_opening found v
  | searchPath => exact Opening.bind (Still.reading _) fun found v _ => openFound_opening found v
  | scripted key =>
    refine Opening.bind (takeRequest_still key .openStream name) fun _ v₁ _ => ?_
    refine Opening.bind (Still.script key) fun s v₂ hs => ?_
    obtain ⟨rfl, hscript⟩ := script_ok hs
    refine Opening.bind (Still.answer _) fun found v₃ hfound => ?_
    obtain rfl := answer_ok hfound
    -- The script is still there, so that nothing fails once the stream is open.
    have hopening := openFound_opening (found.map (Medium.custom, ·)) v₃
    cases hopen : openFound (found.map (Medium.custom, ·)) v₃ with
    | error e v₄ =>
      rw [hopen] at hopening
      rw [bind_error hopen]
      cases hopening with
      | failed streams => exact .failed streams
    | ok id? v₄ =>
      rw [← openFound_scripts hopen] at hscript
      rw [hopen] at hopening
      rw [bind_ok hopen, bind_ok (modifyScript_ok hscript _)]
      cases hopening with
      | silent streams => exact .silent streams
      | opened opens => exact .opened opens

/-! ## Along a chain -/

theorem firstHit_opening (plan : List (Resolver × Text)) (w : World) :
    (∃ v, Chain.firstHit openStream plan w = .ok none v ∧ v.streams = w.streams) ∨
      (∃ r n v, Chain.firstHit openStream plan w = .ok (some ⟨r, n, w.streams.length⟩) v ∧
        w.Opens 0 v) ∨
      ∃ e v, Chain.firstHit openStream plan w = .error e v ∧ v.streams = w.streams := by
  induction plan generalizing w with
  | nil => exact .inl ⟨w, rfl, rfl⟩
  | cons p rest ih =>
    obtain ⟨r, n⟩ := p
    have hopening := r.openStream_opening n w
    cases hask : r.openStream n w with
    | error e v =>
      rw [hask] at hopening
      cases hopening with
      | failed streams => exact .inr (.inr ⟨e, v, Chain.firstHit_cons_error hask, streams⟩)
    | ok id? v =>
      rw [hask] at hopening
      cases hopening with
      | opened opens => exact .inr (.inl ⟨r, n, v, Chain.firstHit_cons_some hask, opens⟩)
      | silent streams =>
        rw [Chain.firstHit_cons_none hask]
        have hrest := ih v
        simp only [World.Opens, streams] at hrest
        exact hrest

end Resolver

theorem Along.resolveStream_opening (c : Along Resolver) (name : Text) (w : World) :
    Lookup.Opening w (c.resolveStream name w) := by
  have hfirst := Resolver.firstHit_opening
    (Chain.attempts (c.resolvers w.settings) (Request.openStream.forms name)) w
  have hask : Resolver.family.ask .openStream = Resolver.openStream := rfl
  rw [← hask] at hfirst
  rcases hfirst with ⟨v, hv, streams⟩ | ⟨r, n, v, hv, opens⟩ | ⟨e, v, hv, streams⟩
  · rw [resolveStream, Family.resolve_of_miss hv]
    exact .silent streams
  · rw [resolveStream, Family.resolve_of_hit hv]
    exact .opened opens
  · rw [resolveStream, Family.resolve_of_error hv]
    exact .failed streams

end ResourceLookup
