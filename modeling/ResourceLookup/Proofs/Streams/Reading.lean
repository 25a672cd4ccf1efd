import ResourceLookup.Proofs.Streams.Ownership

/-!
# What streams are read as

A stream that has just been opened is read as the octets it was opened with, whether it was opened
under a name or at an address. Only octets in memory are read without fail.
-/

namespace ResourceLookup

open Lookup

def World.Reads (v : World) (id : StreamId) (bs : Octets) : Prop :=
  ∃ v', readStream id none v = .ok bs v'

inductive World.Offers (v : World) (id : StreamId) (bs : Octets) : Prop
  | reads (h : v.Reads id bs)
  | fails {flaw : Flaw} (flawed : v.flaws id = some flaw)
    (h : readStream id none v = .error flaw.fault v)

theorem World.Offers.reads_of_sound {v : World} {id : StreamId} {bs : Octets} (h : v.Offers id bs)
    (sound : v.flaws id = none) : v.Reads id bs := by
  cases h with
  | reads h => exact h
  | fails flawed =>
    rw [sound] at flawed
    cases flawed

namespace Lookup

variable {w : World} {holding : Holding}

theorem readStream_new (holding : Holding) (w : World) :
    readStream w.streams.length none { w with streams := w.streams ++ [newStream w holding] } =
      (answer ((newStream w holding).read none) >>= fun p => do
        setStream w.streams.length p.2
        pure p.1) { w with streams := w.streams ++ [newStream w holding] } := by
  have hs : (w.streams ++ [newStream w holding])[w.streams.length]? = some (newStream w holding) :=
    List.getElem?_concat_length
  rw [readStream, bind_ok (stream_ok hs)]

theorem openStream_reads (sound : holding.1 = .memory ∨ w.flaws w.streams.length = none) :
    ∃ id v, openStream holding w = .ok id v ∧ v.Reads id holding.2 := by
  refine ⟨_, _, rfl, ?_⟩
  have hnew : newStream w holding = .ofOctets holding.1 holding.2 := by
    rw [newStream]
    rcases sound with hmemory | hsound
    · rw [if_pos hmemory]
    · rw [hsound, ite_self]
  rw [World.Reads, readStream_new, hnew]
  exact ⟨_, rfl⟩

theorem openStream_offers (holding : Holding) (w : World) :
    ∃ id v, openStream holding w = .ok id v ∧ v.Offers id holding.2 := by
  by_cases hmemory : holding.1 = .memory
  · obtain ⟨id, v, hopen, hreads⟩ := openStream_reads (.inl hmemory)
    exact ⟨id, v, hopen, .reads hreads⟩
  cases hflaw : w.flaws w.streams.length with
  | none =>
    obtain ⟨id, v, hopen, hreads⟩ := openStream_reads (.inr hflaw)
    exact ⟨id, v, hopen, .reads hreads⟩
  | some flaw =>
    have hnew : newStream w holding = .flawed holding.1 holding.2 flaw := by
      rw [newStream, if_neg hmemory, hflaw]
    refine ⟨_, _, rfl, .fails hflaw ?_⟩
    rw [readStream_new, hnew]
    rfl

end Lookup

namespace Resolver

variable {w : World}

theorem openFound_reads (w : World) (holding : Holding)
    (sound : holding.1 = .memory ∨ w.flaws w.streams.length = none) :
    ∃ id v, openFound (some holding) w = .ok (some id) v ∧ v.Reads id holding.2 := by
  obtain ⟨id, v, hopen, hreads⟩ := Lookup.openStream_reads sound
  exact ⟨id, v, bind_ok hopen, hreads⟩

theorem place_offers {p : Place} {name : Text} {holding : Holding}
    (h : p.read w.around name = .ok (some holding)) :
    ∃ id v, (place p).openStream name w = .ok (some id) v ∧ v.Offers id holding.2 := by
  obtain ⟨id, v, hopen, hoffers⟩ := Lookup.openStream_offers holding w
  exact ⟨id, v, (bind_ok (reading_ok h)).trans (bind_ok hopen), hoffers⟩

theorem read_of_openStream {p : Place} {name : Text} {id : StreamId} {v : World}
    (h : (place p).openStream name w = .ok (some id) v) :
    ∃ holding, p.read w.around name = .ok (some holding) := by
  obtain ⟨found?, u, hread, hopen⟩ := ok_of_bind h
  cases found? with
  | none => cases hopen
  | some holding => exact ⟨holding, (ok_of_reading hread).1⟩

theorem url_of_findUrl {p : Place} {name : Text} {url? : Option Text} {v : World}
    (h : (place p).findUrl name w = .ok url? v) : p.url w.around name = .ok url? ∧ v = w := by
  rw [findUrl] at h
  exact ok_of_reading h

theorem findUrl_of_url {p : Place} {name : Text} {url? : Option Text}
    (h : p.url w.around name = .ok url?) : (place p).findUrl name w = .ok url? w := by
  rw [findUrl]
  exact reading_ok h

/-- Under the name the resolver opens a stream and gives an address, and both give these octets:
they are read as them, or they are unless reading fails. -/
structure Serves (gives : World → StreamId → Octets → Prop) (r : Resolver) (name : Text) (w : World)
    (url : Text) (bs : Octets) : Prop where
  opens : ∃ id v, r.openStream name w = .ok (some id) v ∧ gives v id bs
  finds : r.findUrl name w = .ok (some url) w
  leads : ∃ id v, Access.getUrlStream url w = .ok id v ∧ gives v id bs

end Resolver

namespace Access

variable {w : World} {url : Text} {source : Url.Source} {bs : Octets}

def Fetches (w : World) (url : Text) (source : Url.Source) (bs : Octets) : Prop :=
  Url.openUrl w.around.tree w.around.cwd url w.around.outside = .ok (source, bs)

theorem getUrlStream_eq (h : Fetches w url source bs) :
    getUrlStream url w = openStream (mediumOf source, bs) w := by
  rw [Fetches] at h
  rw [getUrlStream, get_bind_apply]
  simp only [h]

theorem getUrlStream_reads (h : Fetches w url .memory bs) :
    ∃ id v, getUrlStream url w = .ok id v ∧ v.Reads id bs :=
  getUrlStream_eq h ▸ openStream_reads (.inl rfl)

theorem getUrlStream_offers (h : Fetches w url source bs) :
    ∃ id v, getUrlStream url w = .ok id v ∧ v.Offers id bs :=
  getUrlStream_eq h ▸ openStream_offers (mediumOf source, bs) w

end Access
end ResourceLookup
