import TripProposal.Profile
import TripProposal.Settings.Basic
import TripProposal.Url.Basic
import TripProposal.Value.Literal

/-!
# Partner tracking

A link to the tour partner gets the advisor's codes as query parameters, behind the parameters
that it has. A link that already has the partner id parameter is left alone, so tracking a link
twice is the same as tracking it once.
-/

namespace TripProposal

open Text Url

/-- Why a link cannot be tracked. -/
inductive LinkFault
  | url (fault : UrlFault)
  /-- A code or a parameter of the link has no bytes. -/
  | encoding (fault : NotEncodable)

namespace Partner

/-- Whether a URL leads to the partner's domain or one of its subdomains. -/
def owns (partner : Partner) (url : Url) : Bool :=
  isWithin (lower partner.domain.toList) url.host

/-- The parameters that attribute a link: partner, campaign if there is one, and medium. -/
def trackingPairs (partner : Partner) (codes : AffiliateCodes) : Query :=
  (partner.idParam.toList, codes.partnerId.inText.toList) ::
    (if codes.campaignId.isFilled then
      [(partner.campaignParam.toList, codes.campaignId.inText.toList)]
    else []) ++
    [(partner.mediumParam.toList, partner.mediumValue.toList)]

/-- Whether a query has the partner id parameter. -/
def isTracked (partner : Partner) (query : Query) : Bool :=
  query.any fun (name, _) => name == partner.idParam.toList

/-- A URL of the partner with the tracking parameters behind its own. -/
def trackedUrl (partner : Partner) (codes : AffiliateCodes) (url : Url) : Except NotEncodable Url :=
  (Query.parse url.query ++ partner.trackingPairs codes).print.map fun query =>
    { url with query := query }

/-- Whether a URL gets the tracking parameters: it leads to the partner and has none yet. -/
def wants (partner : Partner) (url : Url) : Bool :=
  partner.owns url && !partner.isTracked (Query.parse url.query)

/-- A link with tracking parameters if it leads to the partner and has none yet. -/
def track (partner : Partner) (codes : AffiliateCodes) (link : Text) : Except LinkFault Text := do
  let url ← (Url.split link.toList).mapError .url
  if partner.wants url then
    return Text.ofList (← (partner.trackedUrl codes url).mapError .encoding).join
  else return link

/-- Whether a value is a link to the partner. -/
def isPartnerLink (partner : Partner) : Value → Except LinkFault Bool
  | .text link =>
    if link = "" then .ok false
    else ((Url.split link.toList).map partner.owns).mapError .url
  | _ => .ok false

/-- A value with tracking parameters if it is a link to the partner and the advisor has a code. -/
def trackValue (partner : Partner) (codes : AffiliateCodes) (v : Value) : Except LinkFault Value :=
  match codes.partnerId.isFilled, v with
  | true, .text link => if link = "" then .ok v else (partner.track codes link).map .text
  | _, v => .ok v

end Partner

end TripProposal
