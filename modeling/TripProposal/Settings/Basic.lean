import TripProposal.Text.CodePoint

/-!
# Settings

What an installation decides: where maps and comments live, which tour partner is tracked and how,
which notices count as repeated guidance, and what the trial watermark advertises.
-/

namespace TripProposal

/-- The tour partner whose links carry tracking parameters. -/
structure Partner where
  domain : Text := "viator.com"
  /-- Name by which excursions refer to the partner. -/
  name : Text := "viator"
  idParam : Text := "pid"
  campaignParam : Text := "mcid"
  mediumParam : Text := "medium"
  mediumValue : Text := "link"
deriving DecidableEq, Inhabited

/-- Two dotted paths whose texts may repeat the same guidance. -/
structure NoticePair where
  /-- Path of the field that is kept when both are equally specific. -/
  first : Text := ""
  second : Text := ""
deriving DecidableEq, Inhabited

/-- Settings of an installation. -/
structure Settings where
  mapsKey : Text := ""
  apiEndpoint : Text := "https://proposals.example.com"
  partner : Partner := {}
  noticeKeywords : List Text := []
  noticePairs : List NoticePair := []
  productName : Text := "Porter"
  watermarkUrl : Text := "https://porter.example.com"
deriving DecidableEq, Inhabited

/-- The settings that come with the program. -/
def Settings.packaged : Settings where
  noticeKeywords :=
    ["book independently", "booked independently", "book on your own", "book directly",
     "not included in your package", "not part of your package", "self-book",
     "reserve separately", "booked separately"]
  noticePairs := [⟨"viatorToursDescription", "meta.selfBookingNote"⟩]

end TripProposal
