import Mathlib
import ResourceLookup.Proofs.Chain.Consultation
import ResourceLookup.Proofs.Url.DataAddress

/-!
# The two forms of a name

A lookup of a stream or an address asks each resolver for the name and then for the name with one
leading slash more or less. Where the resolvers answer by the name alone, it makes no difference
which of the two forms the lookup begins with: the first resolver that answers either of them is the
same, and so is its answer when it knows only one of them. The forms are those of each other unless
the name begins with two slashes.
-/

namespace ResourceLookup

open ResourceName (alternate)

theorem ResourceName.alternate_alternate_iff (name : Text) :
    alternate (alternate name) = name ↔ ¬[Path.slash, Path.slash] <+: name := by
  refine ⟨?_, alternate_alternate⟩
  rintro heq ⟨r, rfl⟩
  have hr : r = Path.slash :: Path.slash :: r := by simpa [alternate] using heq
  have hlen := congrArg List.length hr
  rw [List.length_cons, List.length_cons] at hlen
  omega

def Query.alternate {ρ : Type} (q : Query ρ) : Query ρ :=
  { q with name := ResourceName.alternate q.name }

variable {ρ σ ε β : Type} {α : Request → Type}

namespace Query

def callsTo (q : Query ρ) (settings : Settings ρ) (i : Nat) (r : ρ) (m : Text) : List (ρ × Text) :=
  Chain.attempts ((q.sequence settings).take i) (q.request.forms q.name) ++
    if m = q.name then [(r, m)] else [(r, q.name), (r, m)]

theorem forms_eq {q : Query ρ} (two : q.request ≠ .loadClass) :
    q.request.forms q.name = [q.name, ResourceName.alternate q.name] := by
  cases hr : q.request with
  | openStream | findUrl => rfl
  | loadClass => exact absurd hr two

theorem plan_split {q : Query ρ} {settings : Settings ρ} {before after : List ρ} {r : ρ}
    (two : q.request ≠ .loadClass) (split : q.sequence settings = before ++ r :: after) :
    q.plan settings = Chain.attempts before (q.request.forms q.name) ++
      (r, q.name) :: (r, ResourceName.alternate q.name) ::
        Chain.attempts after (q.request.forms q.name) := by
  rw [plan_eq_attempts, ← sequence_eq_resolvers, split, forms_eq two]
  simp [Chain.attempts]

end Query

namespace Family

structure View (F : Family ρ σ ε α) (request : Request) (β : Type) where
  seen : σ → α request → β
  seen_note : ∀ n s a, seen (F.note request n s) a = seen s a

variable {F : Family ρ σ ε α} {q : Query ρ} {view : F.View q.request β} {within : σ → Prop}
  {known : ρ → Text → Option β} {s t : σ} {before after : List ρ} {r : ρ}

/-- Within these states the resolvers answer by the name alone, `known` being what is seen of the
answer, if there is one. -/
def AnswersByName (F : Family ρ σ ε α) {request : Request} (view : F.View request β)
    (within : σ → Prop) (known : ρ → Text → Option β) (rs : List ρ) : Prop :=
  ∀ r ∈ rs, ∀ n s, within s → ∃ found s', F.ask request r n s = .ok found s' ∧ within s' ∧
    found.map (view.seen s') = known r n

def Finds (F : Family ρ σ ε α) (q : Query ρ) (s : σ) : Prop :=
  ∃ a s', F.resolve q.request q.along q.name s = .ok (some a) s'

/-- The lookup is answered by the resolver `r` at place `i` of the snapshot, to the form `m` of the
name and with what is seen as `b`, after it has asked the resolvers before that place for both
forms. -/
structure FoundAt (F : Family ρ σ ε α) (q : Query ρ) (view : F.View q.request β) (s : σ) (i : Nat)
    (r : ρ) (m : Text) (b : β) : Prop where
  place : (q.sequence (F.settings s))[i]? = some r
  found : ∃ a s', F.resolve q.request q.along q.name s = .ok (some a) s' ∧ view.seen s' a = b ∧
    F.Consults q s (q.callsTo (F.settings s) i r m) (.ok (some a)) s'

theorem FoundAt.finds {i : Nat} {m : Text} {b : β} (h : F.FoundAt q view s i r m b) :
    F.Finds q s := by
  obtain ⟨a, s', hresolve, -, -⟩ := h.found
  exact ⟨a, s', hresolve⟩

theorem FoundAt.seen_of_resolve {i : Nat} {m : Text} {b : β} {a : α q.request} {s' : σ}
    (h : F.FoundAt q view s i r m b)
    (resolve : F.resolve q.request q.along q.name s = .ok (some a) s') : b = view.seen s' a := by
  obtain ⟨a', v, hresolve, rfl, -⟩ := h.found
  cases hresolve.symm.trans resolve
  rfl

/-! ## Asking by name -/

theorem AnswersByName.ask_none {rs : List ρ} {n : Text}
    (byName : F.AnswersByName view within known rs) (hr : r ∈ rs) (hs : within s)
    (unknown : known r n = none) : ∃ s', F.ask q.request r n s = .ok none s' ∧ within s' := by
  obtain ⟨found, s', hask, hs', hseen⟩ := byName r hr n s hs
  rw [unknown, Option.map_eq_none_iff] at hseen
  exact ⟨s', hseen ▸ hask, hs'⟩

theorem AnswersByName.ask_some {rs : List ρ} {n : Text} {b : β}
    (byName : F.AnswersByName view within known rs) (hr : r ∈ rs) (hs : within s)
    (knows : known r n = some b) :
    ∃ a s', F.ask q.request r n s = .ok (some a) s' ∧ view.seen s' a = b := by
  obtain ⟨found, s', hask, -, hseen⟩ := byName r hr n s hs
  rw [knows, Option.map_eq_some_iff] at hseen
  obtain ⟨a, rfl, hb⟩ := hseen
  exact ⟨a, s', hask, hb⟩

/-- Resolvers that answer none of the forms are asked for all of them. -/
theorem AnswersByName.silent {rs : List ρ} {forms : List Text}
    (byName : F.AnswersByName view within known rs) (sub : before ⊆ rs)
    (vain : ∀ r ∈ before, ∀ n ∈ forms, known r n = none) (hs : within s) :
    ∃ s', F.Silent q.request (Chain.attempts before forms) s s' ∧ within s' := by
  have hcalls : ∀ c ∈ Chain.attempts before forms, c.1 ∈ rs ∧ known c.1 c.2 = none := by
    intro c hc
    obtain ⟨r, hr, hc⟩ := List.mem_flatMap.1 hc
    obtain ⟨n, hn, rfl⟩ := List.mem_map.1 hc
    exact ⟨sub hr, vain r hr n hn⟩
  generalize Chain.attempts before forms = calls at hcalls
  induction calls generalizing s with
  | nil => exact ⟨s, .nil s, hs⟩
  | cons c calls ih =>
    obtain ⟨hmem, hnone⟩ := hcalls c List.mem_cons_self
    obtain ⟨s', hask, hs'⟩ := byName.ask_none hmem hs hnone
    obtain ⟨s'', hsilent, hs''⟩ := ih hs' fun d hd => hcalls d (List.mem_cons_of_mem c hd)
    exact ⟨s'', .cons hask hsilent, hs''⟩

theorem Silent.resolve {calls rest : List (ρ × Text)} {n : Text} {s' s'' : σ} {a : α q.request}
    (h : F.Silent q.request calls s s') (plan : q.plan (F.settings s) = calls ++ (r, n) :: rest)
    (last : F.ask q.request r n s' = .ok (some a) s'') :
    F.resolve q.request q.along q.name s =
      .ok (some a) (F.note q.request (.hit r n) s'') := by
  have hit : Chain.firstHit (F.ask q.request) (Chain.attempts
      (q.along.resolvers (F.settings s)) (q.request.forms q.name)) s = .ok (some ⟨r, n, a⟩) s'' := by
    rw [← Query.plan_eq_attempts, plan, h.firstHit, Chain.firstHit_cons_some last]
  exact resolve_of_hit hit

/-! ## The first resolver that knows the name -/

theorem not_finds (byName : F.AnswersByName view within known (q.sequence (F.settings s)))
    (hs : within s)
    (vain : ∀ r ∈ q.sequence (F.settings s), ∀ n ∈ q.request.forms q.name, known r n = none) :
    ¬F.Finds q s := by
  obtain ⟨s', hsilent, -⟩ := byName.silent (List.Subset.refl _) vain hs
  rw [Query.sequence_eq_resolvers] at hsilent
  have hmiss := hsilent.firstHit []
  rw [List.append_nil] at hmiss
  rintro ⟨a, v, hresolve⟩
  rw [resolve_of_miss hmiss] at hresolve
  cases hresolve

/-- The first resolver that answers one of the forms is the one that answers the lookup. -/
theorem foundAt_of_first (two : q.request ≠ .loadClass)
    (byName : F.AnswersByName view within known (q.sequence (F.settings s))) (hs : within s)
    (split : q.sequence (F.settings s) = before ++ r :: after)
    (vain : ∀ k ∈ before, ∀ n ∈ q.request.forms q.name, known k n = none)
    (knows : ∃ n ∈ q.request.forms q.name, known r n ≠ none) :
    ∃ m b, F.FoundAt q view s before.length r m b ∧ m ∈ [q.name, alternate q.name] ∧
      known r m = some b := by
  have hr : r ∈ q.sequence (F.settings s) := split ▸ List.mem_append_right _ List.mem_cons_self
  have hplace : (q.sequence (F.settings s))[before.length]? = some r := by simp [split]
  have htake : (q.sequence (F.settings s)).take before.length = before := by simp [split]
  have hplan := Query.plan_split two split
  obtain ⟨s', hsilent, hs'⟩ :=
    byName.silent (split ▸ List.subset_append_left before (r :: after)) vain hs
  cases hown : known r q.name with
  | some b =>
    obtain ⟨a, s'', hask, hseen⟩ := byName.ask_some hr hs' hown
    refine ⟨q.name, b, ⟨hplace, a, _, hsilent.resolve hplan hask, ?_, ?_⟩, by simp, hown⟩
    · rw [view.seen_note, hseen]
    · rw [Query.callsTo, htake, if_pos rfl]
      exact .answered hplan hsilent hask
  | none =>
    obtain ⟨b, hother⟩ : ∃ b, known r (ResourceName.alternate q.name) = some b := by
      obtain ⟨n, hn, hknows⟩ := knows
      rw [Query.forms_eq two, List.mem_cons, List.mem_singleton] at hn
      rcases hn with rfl | rfl
      · exact absurd hown hknows
      · exact Option.ne_none_iff_exists'.1 hknows
    have hne : ResourceName.alternate q.name ≠ q.name := by
      intro heq
      rw [heq, hown] at hother
      cases hother
    obtain ⟨v, hfirst, hv⟩ := byName.ask_none hr hs' hown
    have hsilent' := hsilent.append (.cons hfirst (.nil v))
    have hplan' : q.plan (F.settings s) =
        (Chain.attempts before (q.request.forms q.name) ++ [(r, q.name)]) ++
          (r, ResourceName.alternate q.name) ::
            Chain.attempts after (q.request.forms q.name) := by
      rw [hplan, List.append_assoc, List.singleton_append]
    obtain ⟨a, s'', hask, hseen⟩ := byName.ask_some hr hv hother
    refine ⟨_, b, ⟨hplace, a, _, hsilent'.resolve hplan' hask, ?_, ?_⟩, by simp, hother⟩
    · rw [view.seen_note, hseen]
    · have hcalls : q.callsTo (F.settings s) before.length r (ResourceName.alternate q.name) =
          (Chain.attempts before (q.request.forms q.name) ++ [(r, q.name)]) ++
            [(r, ResourceName.alternate q.name)] := by
        rw [Query.callsTo, htake, if_neg hne, List.append_assoc]
        rfl
      rw [hcalls]
      exact .answered hplan' hsilent' hask

theorem first_that_knows (known : ρ → Text → Option β) (forms : List Text) (rs : List ρ) :
    (∀ r ∈ rs, ∀ n ∈ forms, known r n = none) ∨
      ∃ before r after, rs = before ++ r :: after ∧
        (∀ k ∈ before, ∀ n ∈ forms, known k n = none) ∧ ∃ n ∈ forms, known r n ≠ none := by
  induction rs with
  | nil => exact .inl nofun
  | cons r rs ih =>
    by_cases hr : ∀ n ∈ forms, known r n = none
    · rcases ih with hnone | ⟨before, k, after, rfl, hvain, hknows⟩
      · exact .inl (List.forall_mem_cons.2 ⟨hr, hnone⟩)
      · exact .inr ⟨r :: before, k, after, rfl, List.forall_mem_cons.2 ⟨hr, hvain⟩, hknows⟩
    · push Not at hr
      exact .inr ⟨[], r, rs, rfl, nofun, hr⟩

/-- Taking the other form twice gives back just the names that do not begin with two slashes. For
such a name, where the resolvers of the snapshot answer by the name alone, a lookup of a stream or an
address finds something under one form if and only if it does under the other; then the same resolver
of the snapshot answers both lookups, and if it knows only one of the two forms, both give its answer
to that form. -/
theorem forms_found_alike (F : Family ρ σ ε α) (q : Query ρ) (view : F.View q.request β)
    (within : σ → Prop) (known : ρ → Text → Option β) (s t : σ) :
    (∀ name, alternate (alternate name) = name ↔ ¬[Path.slash, Path.slash] <+: name) ∧
      (q.request ≠ .loadClass → ¬[Path.slash, Path.slash] <+: q.name →
        q.sequence (F.settings t) = q.sequence (F.settings s) →
        F.AnswersByName view within known (q.sequence (F.settings s)) → within s → within t →
          (F.Finds q s ↔ F.Finds q.alternate t) ∧
            (F.Finds q s → ∃ i r m m' b b',
              F.FoundAt q view s i r m b ∧ F.FoundAt q.alternate view t i r m' b' ∧
                ∀ n ∈ [q.name, alternate q.name], ∀ c, known r n = some c →
                  known r (alternate n) = none → (m = n ∧ b = c) ∧ (m' = n ∧ b' = c))) := by
  refine ⟨ResourceName.alternate_alternate_iff, fun two single snapshot byName hs ht => ?_⟩
  have hback : alternate (alternate q.name) = q.name := ResourceName.alternate_alternate single
  have hforms : ∀ n, n ∈ q.alternate.request.forms q.alternate.name ↔
      n ∈ q.request.forms q.name := by
    intro n
    rw [Query.forms_eq two, Query.forms_eq (q := q.alternate) two]
    simp only [Query.alternate, hback, List.mem_cons, List.not_mem_nil, or_false]
    exact or_comm
  have snapshot' : q.alternate.sequence (F.settings t) = q.sequence (F.settings s) := snapshot
  let view' : F.View q.alternate.request β := view
  have byName' : F.AnswersByName view' within known (q.alternate.sequence (F.settings t)) :=
    snapshot'.symm ▸ byName
  rcases first_that_knows known (q.request.forms q.name) (q.sequence (F.settings s)) with
    hvain | ⟨before, r, after, split, hvain, n, hn, hknows⟩
  · have hnot : ¬F.Finds q s := not_finds byName hs hvain
    have hnot' : ¬F.Finds q.alternate t := by
      refine not_finds byName' ht fun k hk n hn => ?_
      exact hvain k (snapshot' ▸ hk) n ((hforms n).1 hn)
    exact ⟨iff_of_false hnot hnot', fun h => absurd h hnot⟩
  · obtain ⟨m, b, hfound, hm, hb⟩ := foundAt_of_first two byName hs split hvain ⟨n, hn, hknows⟩
    obtain ⟨m', b', hfound', hm', hb'⟩ := foundAt_of_first (q := q.alternate) two byName' ht
      (snapshot'.trans split) (fun k hk n hn => hvain k hk n ((hforms n).1 hn))
      ⟨n, (hforms n).2 hn, hknows⟩
    have hm' : m' ∈ [q.name, alternate q.name] := by
      simpa [Query.alternate, hback, or_comm] using hm'
    refine ⟨iff_of_true hfound.finds hfound'.finds, fun _ =>
      ⟨_, r, m, m', b, b', hfound, hfound', fun n hn c hc hother => ?_⟩⟩
    -- Of the two forms the one that is not `n` has no answer.
    have honly : ∀ k ∈ [q.name, alternate q.name], ∀ d, known r k = some d → k = n ∧ d = c := by
      intro k hk d hd
      have hkn : k = n ∨ k = alternate n := by
        simp only [List.mem_cons, List.not_mem_nil, or_false] at hk hn
        rcases hk with rfl | rfl <;> rcases hn with rfl | rfl <;> simp [hback]
      rcases hkn with rfl | rfl
      · exact ⟨rfl, Option.some.inj (hd.symm.trans hc)⟩
      · rw [hother] at hd
        cases hd
    exact ⟨honly m hm b hb, honly m' hm' b' hb'⟩

end Family

/-! ## Maps -/

namespace Resolver

def leftIn : family.View .openStream Octets where
  seen w id := ((w.streams[id]?).map Stream.rest).getD []
  seen_note _ _ _ := rfl

def heldOctets (w : World) : Resolver → Text → Option Octets
  | mapping key, name => (content? w key name).bind fun c => c.toOctets.toOption
  | _, _ => none

/-- As long as the maps stay as they are, resolvers over them answer by the name alone. -/
theorem mappings_answer_by_name {w : World} {keys : List Text}
    (encodable : ∀ key name c, content? w key name = some c → c.IsEncodable) :
    family.AnswersByName leftIn (fun v => v.mappings = w.mappings) (heldOctets w)
      (keys.map mapping) := by
  intro r hr name v hv
  obtain ⟨key, -, rfl⟩ := List.mem_map.1 hr
  have hcontent : content? v key name = content? w key name := by rw [content?, content?, hv]
  rw [heldOctets, ← hcontent]
  cases hheld : content? v key name with
  | none =>
    have hnone : Lookup.answer (contentOf ((v.mappings.get? key).getD []) name) v = .ok none v := by
      rw [content?] at hheld
      rw [contentOf, hheld]
      rfl
    exact ⟨none, v, bind_ok hnone, hv, rfl⟩
  | some c =>
    obtain ⟨bs, hoctets⟩ := c.toOctets_of_encodable (encodable key name c (hcontent ▸ hheld))
    have hsome : Lookup.answer (contentOf ((v.mappings.get? key).getD []) name) v =
        .ok (some bs) v := by
      rw [content?] at hheld
      rw [contentOf, hheld]
      simp only [hoctets]
      rfl
    refine ⟨some v.streams.length, _, bind_ok hsome, hv, ?_⟩
    simp [leftIn, Lookup.newStream, Stream.ofOctets, hoctets, Except.toOption]

def threeMaps : World :=
  { World.startIn { tree := [], cwd := [] } with
    mappings :=
      [(text "a", []), (text "b", [(text "/x", .octets [1])]), (text "c", [(text "x", .octets [2])])] }

def threeMapsLater : World := { threeMaps with streams := [.ofOctets .memory []] }

def asX : Query Resolver :=
  ⟨.openStream, ⟨⟨some (mapping (text "b")), some (mapping (text "c"))⟩, some (mapping (text "a"))⟩,
    text "x"⟩

theorem threeMaps_encodable (key name : Text) (c : Content)
    (h : content? threeMaps key name = some c) : c.IsEncodable := by
  rw [content?] at h
  cases hmap : threeMaps.mappings.get? key with
  | none =>
    rw [hmap] at h
    cases h
  | some m =>
    rw [hmap] at h
    have hm := OrderedMap.mem_of_get? hmap
    have hc := OrderedMap.mem_of_get? h
    simp only [threeMaps, List.mem_cons, List.not_mem_nil, or_false, Prod.mk.injEq] at hm
    rcases hm with ⟨-, rfl⟩ | ⟨-, rfl⟩ | ⟨-, rfl⟩ <;> simp at hc
    · exact hc.2 ▸ trivial
    · exact hc.2 ▸ trivial

theorem forms_found_alike_threeMaps :
    family.Finds asX threeMaps ∧ family.Finds asX.alternate threeMapsLater ∧
      ∃ i r m m', family.FoundAt asX leftIn threeMaps i r m [1] ∧
        family.FoundAt asX.alternate leftIn threeMapsLater i r m' [1] := by
  have sequence : asX.sequence (family.settings threeMaps) =
      [text "a", text "b", text "c"].map mapping := rfl
  have byName : family.AnswersByName leftIn (fun v => v.mappings = threeMaps.mappings)
      (heldOctets threeMaps) (asX.sequence (family.settings threeMaps)) :=
    sequence ▸ mappings_answer_by_name threeMaps_encodable
  obtain ⟨-, halike⟩ := Family.forms_found_alike family asX leftIn
    (fun v => v.mappings = threeMaps.mappings) (heldOctets threeMaps) threeMaps threeMapsLater
  obtain ⟨hiff, hsame⟩ := halike (by decide) (by decide) rfl byName rfl rfl
  have hfinds : family.Finds asX threeMaps := ⟨_, _, rfl⟩
  obtain ⟨i, r, m, m', b, b', hfound, hfound', -⟩ := hsame hfinds
  obtain rfl : b = [1] := hfound.seen_of_resolve rfl
  obtain rfl : b' = [1] := hfound'.seen_of_resolve rfl
  exact ⟨hfinds, hiff.1 hfinds, i, r, m, m', hfound, hfound'⟩

end Resolver
end ResourceLookup
