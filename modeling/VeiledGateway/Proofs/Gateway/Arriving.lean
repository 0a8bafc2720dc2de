/-
  Arriving: how a request that is let in comes to a document of the site.

  It asks for the path of the document, or for a path that was given out for a link to it.  Until the
  lock of its session is entered, at most the time of the name that it shows is checked.
-/
import VeiledGateway.Proofs.Gateway.Leaving
import VeiledGateway.Proofs.Gateway.Run
import VeiledGateway.Proofs.Session.Sparing

set_option autoImplicit false

namespace VeiledGateway

/-- The visitor is the same, and at most the time of its name is checked. -/
structure Visit.Spares (visit final : Visit) : Prop where
  session : final.session = visit.session
  twister : final.twister = visit.twister
  sessions (name : Text) (hname : ∀ shown, visit.session = some shown → shown = name) :
    visit.sessions.Spares final.sessions name

theorem Visit.Spares.refl (visit : Visit) : visit.Spares visit :=
  ⟨rfl, rfl, fun name _ => Sessions.spares_of_eq rfl rfl name⟩

theorem Visit.Spares.trans {visit mid final : Visit} (h : visit.Spares mid) (h' : mid.Spares final) :
    visit.Spares final where
  session := h'.session.trans h.session
  twister := h'.twister.trans h.twister
  sessions := fun name hname =>
    (h.sessions name hname).trans (h'.sessions name fun shown hshown =>
      hname shown (h.session.symm.trans hshown))

namespace Handling

/-- Asking for the record of the session checks the time of its name. -/
theorem spares_record? : Leaves Visit.Spares record? := by
  refine leaves_record? Visit.Spares.refl fun visit shown hsession => ⟨rfl, rfl, fun name hname => ?_⟩
  obtain rfl := hname shown hsession
  exact Sessions.spares_load shown visit.sessions

/-- The name of the session is the one that is shown, or a new one; what is kept is not touched. -/
theorem sessionName_eq_ok {hasSecret : Bool} {visit named : Visit} {name : Text}
    (h : (sessionName hasSecret).run.run visit = (.ok name, named)) :
    (∀ shown, visit.session = some shown → shown = name) ∧ named.twister = visit.twister ∧
      visit.sessions.Spares named.sessions name := by
  unfold sessionName at h
  rw [run_bind_of_ok (rfl : (get : Handling Visit).run.run visit = (.ok visit, visit))] at h
  cases hsession : visit.session with
  | some shown =>
    rw [hsession] at h
    obtain ⟨hok, rfl⟩ := Prod.mk.inj h
    obtain rfl := Except.ok.inj hok
    refine ⟨fun other hother => (Option.some.inj hother).symm, rfl, ?_⟩
    exact Sessions.spares_of_eq rfl rfl _
  | none =>
    rw [hsession] at h
    refine ⟨nofun, ?_⟩
    cases hasSecret with
    | false => cases (Prod.mk.inj h).1
    | true =>
      obtain ⟨hok, rfl⟩ := Prod.mk.inj h
      refine ⟨rfl, Sessions.spares_of_eq ?_ ?_ _⟩ <;> rfl

end Handling

namespace Gateway

open Handling

variable {gateway : Gateway} {request : Request} {visit arrived mid : Visit}
  {path base mediaType source : Text}

/-- Letting a visitor in checks at most the time of its name. -/
theorem spares_admits (gateway : Gateway) (request : Request) :
    Leaves Visit.Spares (gateway.admits request) :=
  leaves_admits Visit.Spares.refl spares_record? gateway request

/-- At a path lies a document of a kind that is rewritten, which is seen from `base`. -/
inductive LeadsTo (gateway : Gateway) (path : Text) : Text → Text → Text → Prop where
  | document {place : Place} {bytes : Option (List UInt8)}
      (hplace : gateway.assets.locate path = .ok (some place))
      (hbytes : gateway.assets.disk.read? place = .ok bytes)
      (hkind : Pipeline.handles (some (Site.mediaType (place.getLast?.getD []))) = true) :
      gateway.LeadsTo path (Site.documentPath path (place.getLast?.getD []))
        (Site.mediaType (place.getLast?.getD [])) (Site.text (bytes.getD []))

/-- A request that has been let in comes to a document, and the visit is then at `mid`. -/
inductive ComesTo (gateway : Gateway) (request : Request) (arrived : Visit) :
    Text → Text → Text → Visit → Prop where
  /-- The path of the request is that of the document. -/
  | site {base mediaType source : Text} (hendpoint : gateway.endpoint? request = some .site)
      (hleads : gateway.LeadsTo request.path base mediaType source) :
      gateway.ComesTo request arrived base mediaType source arrived
  /-- The path of the request was given out for a link of the session to the document. -/
  | link {base mediaType source original : Text} {record : Record} {mid : Visit}
      (hendpoint : gateway.endpoint? request = some .link)
      (hrecord : record?.run.run arrived = (.ok (some record), mid))
      (horiginal : gateway.links.resolve request.path (record.context mid.twister) = some original)
      (hleads : gateway.LeadsTo original base mediaType source) :
      gateway.ComesTo request arrived base mediaType source mid

theorem serve_of_leadsTo (h : gateway.LeadsTo path base mediaType source) (visit : Visit) :
    (gateway.serve path).run.run visit = (gateway.document base mediaType source).run.run visit := by
  cases h with
  | @document place bytes hplace hbytes hkind =>
    unfold serve
    have hlocated : (orTrouble Trouble.asset (gateway.assets.locate path)).run.run visit =
        (.ok (some place), visit) := by rw [run_orTrouble, hplace]; rfl
    have hread : (orTrouble Trouble.asset (gateway.assets.disk.read? place)).run.run visit =
        (.ok bytes, visit) := by rw [run_orTrouble, hbytes]; rfl
    rw [run_bind_of_ok hlocated]
    dsimp only
    rw [run_bind_of_ok hread, if_pos hkind]

theorem ComesTo.spares (h : gateway.ComesTo request arrived base mediaType source mid) :
    arrived.Spares mid := by
  cases h with
  | site hendpoint hleads => exact Visit.Spares.refl arrived
  | link hendpoint hrecord horiginal hleads =>
    have hleft := spares_record? arrived
    rwa [hrecord] at hleft

/-- A request that comes to a document is answered with it. -/
theorem respond_of_comesTo (hadmits : (gateway.admits request).run.run visit = (.ok true, arrived))
    (h : gateway.ComesTo request arrived base mediaType source mid) :
    (gateway.respond request).run.run visit =
      (gateway.document base mediaType source).run.run mid := by
  rw [respond_of_admitted hadmits]
  cases h with
  | site hendpoint hleads =>
    rw [dispatch_of_endpoint hendpoint]
    exact serve_of_leadsTo hleads arrived
  | link hendpoint hrecord horiginal hleads =>
    rw [dispatch_of_endpoint hendpoint, handle, serveLink, run_bind_of_ok hrecord]
    dsimp only
    rw [run_bind_of_ok (rfl : (get : Handling Visit).run.run mid = (.ok mid, mid)), horiginal]
    exact serve_of_leadsTo hleads mid

/-- A gateway for a site that has one script; what cannot be rewritten is sent as it is. -/
def scriptGateway (source : Text) : Gateway :=
  { plainGateway with
    assets :=
      { disk := { entries := [([("site" : Text), "a.js"], .file (Utf8.encodeLossy source))], home := [] }
        roots := [[("site" : Text)]] }
    passesThrough := true }

end Gateway

end VeiledGateway
