import ModelContext.Client.Session
import ModelContext.Report.Listings

/-!
# A visit to a server

Does the handshake, reports the first page of every listing, and closes the session. The first call
that fails ends the visit, with what was reported until then; the session stays open in that case.
-/

namespace ModelContext.Session

variable {σ : Type}

/-- What a visit reported, how it ended, and the session that it leaves. -/
structure Visit (σ : Type) where
  lines : List String
  outcome : Except ClientError Unit
  session : Session σ

/-- Reports one listing after the other. -/
def report (t : Transport σ) (s : Session σ) : List Listing → Visit σ
  | [] => ⟨[], .ok (), s⟩
  | listing :: later =>
    match s.page t listing none with
    | (.error e, s) => ⟨[], .error e, s⟩
    | (.ok page, s) =>
      let rest := s.report t later
      { rest with lines := (listing.outline page).lines ++ rest.lines }

/-- The listings in the order of a visit. -/
def visited : List Listing :=
  [.prompts, .resources, .templates, .tools]

def visit (t : Transport σ) (s : Session σ) : Visit σ :=
  match s.handshake t with
  | (.error e, s) => ⟨[], .error e, s⟩
  | (.ok _, s) =>
    let tour := s.report t visited
    match tour.outcome with
    | .error e => { tour with outcome := .error e }
    | .ok _ =>
      let (outcome, s) := tour.session.close t
      { tour with outcome, session := s }

end ModelContext.Session
