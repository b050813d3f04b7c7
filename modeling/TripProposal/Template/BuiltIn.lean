import TripProposal.Template.Tag

/-!
# The built-in template

A fresh installation has no templates of its own and shows proposals with this one. Its sections
are written with `⟦` and `⟧` for the marks of tags and `⟨` and `⟩` for the braces of the style
sheet; the template contains none of these characters otherwise.
-/

namespace TripProposal.Template

/-! ### Sections -/

/-- The head of the page with its style sheet. -/
def pageHead : Text := "<!DOCTYPE html>
<html lang=\"en\">
<head>
    <meta charset=\"UTF-8\">
    <meta name=\"viewport\" content=\"width=device-width, initial-scale=1.0\">
    <title>⟦meta.clientName⟧ - ⟦meta.destination⟧ | ⟦_config.agent.agency⟧</title>
    <style>
        :root ⟨
            --primary: ⟦default _config.agent.primaryColor \"#1b619c\"⟧;
            --accent: ⟦default _config.agent.accentColor \"#3baf2a\"⟧;
            --text: #2c3e50;
            --border: #d1e3f0;
        ⟩
        * ⟨ margin: 0; padding: 0; box-sizing: border-box; ⟩
        body ⟨ font-family: 'Segoe UI', Roboto, Arial, sans-serif; line-height: 1.7; color: var(--text); ⟩
        .header-bar ⟨ background: var(--primary); color: #fff; padding: 15px 30px; display: flex; justify-content: space-between; ⟩
        .header-bar a ⟨ color: #fff; ⟩
        .hero ⟨ background: var(--primary); color: #fff; padding: 50px 30px; text-align: center; ⟩
        .dates-badge ⟨ display: inline-block; background: var(--accent); padding: 10px 26px; border-radius: 30px; ⟩
        .container ⟨ max-width: 1000px; margin: 0 auto; padding: 30px; ⟩
        section ⟨ margin-bottom: 40px; ⟩
        h2 ⟨ color: var(--primary); border-bottom: 2px solid var(--border); margin-bottom: 15px; ⟩
        .card ⟨ border: 1px solid var(--border); border-radius: 10px; padding: 18px; margin-bottom: 15px; ⟩
        .badge ⟨ display: inline-block; padding: 2px 10px; border-radius: 12px; font-size: 0.85em; background: #e8f4fc; ⟩
        .badge.confirmed ⟨ background: #dff5dc; ⟩
        .badge.cancelled ⟨ background: #fbe0e0; ⟩
        .day-type ⟨ text-transform: uppercase; font-size: 0.8em; color: #5a6c7d; ⟩
        footer ⟨ text-align: center; padding: 30px; font-size: 0.85em; color: #5a6c7d; ⟩
    </style>
</head>
"

/-- The bar with agency and agent, and the title of the trip. -/
def pageTop : Text := "<body>
    <div class=\"header-bar\">
        <div class=\"logo-container\">
            ⟦#if _config.agent.logo⟧<img src=\"⟦_config.agent.logo⟧\" alt=\"⟦_config.agent.agency⟧\">⟦/if⟧
            <span class=\"logo-text\">⟦_config.agent.agency⟧⟦#if _config.agent.franchise⟧ &middot; ⟦_config.agent.franchise⟧⟦/if⟧</span>
        </div>
        <div class=\"header-contact\">
            ⟦_config.agent.name⟧
            ⟦#if _config.agent.phone⟧ &middot; <a href=\"tel:⟦_config.agent.phone⟧\">⟦_config.agent.phone⟧</a>⟦/if⟧
            ⟦#if _config.agent.email⟧ &middot; <a href=\"mailto:⟦_config.agent.email⟧\">⟦_config.agent.email⟧</a>⟦/if⟧
        </div>
    </div>

    <div class=\"hero\">
        <h1>⟦default meta.title \"Your Trip Proposal\"⟧</h1>
        ⟦#if meta.destination⟧<div class=\"destination\">⟦meta.destination⟧</div>⟦/if⟧
        ⟦#if meta.dates⟧<div class=\"dates-badge\">⟦meta.dates⟧</div>⟦/if⟧
        ⟦#if travelers.count⟧<p>⟦pluralize travelers.count \"Guest\" \"Guests\"⟧</p>⟦/if⟧
        ⟦#if meta.phase⟧<p class=\"tagline\">⟦capitalize meta.phase⟧</p>⟦/if⟧
    </div>

    <div class=\"container\">
"

/-- The days of the trip. -/
def daysSection : Text := "        ⟦#if unifiedTimeline⟧
        <section id=\"itinerary\">
            <h2>Day by Day</h2>
            ⟦#each unifiedTimeline⟧
            <div class=\"card day ⟦dayType⟧\">
                <div class=\"day-type\">Day ⟦dayNumber⟧ &middot; ⟦dayType⟧</div>
                <h3>⟦title⟧</h3>
                ⟦#if date⟧<p class=\"date\">⟦formatDate date⟧</p>⟦/if⟧
                ⟦#with port⟧<p class=\"port\">⟦name⟧⟦#if arrival⟧ &middot; ⟦arrival⟧⟦/if⟧⟦#if departure⟧ - ⟦departure⟧⟦/if⟧</p>⟦/with⟧
                ⟦#if description⟧<p>⟦description⟧</p>⟦/if⟧
                ⟦#if activities⟧
                <ul>
                    ⟦#each activities⟧<li>⟦#if time⟧<strong>⟦time⟧</strong> ⟦/if⟧⟦#if url⟧<a href=\"⟦url⟧\" target=\"_blank\">⟦name⟧</a>⟦else⟧⟦name⟧⟦/if⟧</li>⟦/each⟧
                </ul>
                ⟦/if⟧
                ⟦#if lodging.name⟧<p class=\"lodging\">Overnight: ⟦lodging.name⟧</p>⟦/if⟧
            </div>
            ⟦/each⟧
        </section>
        ⟦/if⟧

"

/-- The stays. -/
def lodgingSection : Text := "        ⟦#if lodging⟧
        <section id=\"lodging\">
            <h2>Where You'll Stay</h2>
            ⟦#each lodging⟧
            <div class=\"card\">
                <h3>⟦#if url⟧<a href=\"⟦url⟧\" target=\"_blank\">⟦name⟧</a>⟦else⟧⟦name⟧⟦/if⟧</h3>
                ⟦#if location⟧<p>⟦location⟧</p>⟦/if⟧
                ⟦#if nights⟧<p>⟦pluralize nights \"night\" \"nights\"⟧⟦#if rate⟧ &middot; ⟦formatCurrency rate⟧/night⟦/if⟧</p>⟦/if⟧
                ⟦#if notes⟧<p>⟦notes⟧</p>⟦/if⟧
            </div>
            ⟦/each⟧
        </section>
        ⟦/if⟧

"

/-- The bookings. -/
def bookingsSection : Text := "        ⟦#if bookings⟧
        <section id=\"bookings\">
            <h2>Bookings</h2>
            ⟦#each bookings⟧
            <div class=\"card booking\">
                <h3>⟦typeIcon⟧ ⟦typeLabel⟧⟦#if supplier⟧ &middot; ⟦supplier⟧⟦/if⟧</h3>
                ⟦#if statusBadge⟧<span class=\"badge ⟦statusClass⟧\">⟦statusBadge⟧</span>⟦/if⟧
                ⟦#if confirmationDisplay⟧<p>Confirmation: ⟦confirmationDisplay⟧</p>⟦/if⟧
                ⟦#if travelersText⟧<p>Travelers: ⟦travelersText⟧</p>⟦/if⟧
                ⟦#if showBalance⟧<p>Balance due: ⟦formatCurrency balance⟧</p>⟦/if⟧
                ⟦#if notes⟧<p>⟦notes⟧</p>⟦/if⟧
            </div>
            ⟦/each⟧
        </section>
        ⟦/if⟧

"

/-- The price tiers. -/
def tiersSection : Text := "        ⟦#if _config.showTiers⟧⟦#if tiers⟧
        <section id=\"tiers\">
            <h2>Options</h2>
            ⟦#each tiers⟧
            <div class=\"card tier\">
                <h3>⟦@key⟧</h3>
                ⟦#if description⟧<p>⟦description⟧</p>⟦/if⟧
                ⟦#if perPerson⟧<p>⟦formatCurrency perPerson⟧ per person</p>⟦/if⟧
            </div>
            ⟦/each⟧
        </section>
        ⟦/if⟧⟦/if⟧

"

/-- The recommended extras. -/
def extrasSection : Text := "        ⟦#if recommendedExtras⟧
        <section id=\"extras\">
            <h2>Recommended Extras</h2>
            ⟦#each recommendedExtras⟧
            <div class=\"card extra ⟦priorityClass⟧\">
                <span class=\"badge\">⟦badgeLabel⟧</span>
                <h3>⟦#if url⟧<a href=\"⟦url⟧\" target=\"_blank\">⟦name⟧</a>⟦else⟧⟦name⟧⟦/if⟧</h3>
                ⟦#if description⟧<p>⟦description⟧</p>⟦/if⟧
                ⟦#if price⟧<p>⟦formatCurrency price⟧</p>⟦/if⟧
            </div>
            ⟦/each⟧
        </section>
        ⟦/if⟧

"

/-- The tours by port. -/
def toursSection : Text := "        ⟦#if viatorToursByPort⟧
        <section id=\"tours\">
            <h2>Tours &amp; Excursions</h2>
            ⟦#if viatorToursDescription⟧<p>⟦viatorToursDescription⟧</p>⟦/if⟧
            ⟦#each viatorToursByPort⟧
            <h3>⟦portLabel⟧</h3>
            <ul>
                ⟦#each tours⟧<li><a href=\"⟦url⟧\" target=\"_blank\">⟦name⟧</a>⟦#if price⟧ &middot; ⟦formatCurrency price⟧⟦/if⟧</li>⟦/each⟧
            </ul>
            ⟦/each⟧
        </section>
        ⟦/if⟧

"

/-- Budget, map, the way to book, and the foot of the page. -/
def pageBottom : Text := "        ⟦#if budget.total⟧
        <section id=\"budget\">
            <h2>Investment</h2>
            <p>Total: ⟦formatCurrency budget.total⟧⟦#if budget.perPerson⟧ (⟦formatCurrency budget.perPerson⟧ per person)⟦/if⟧</p>
        </section>
        ⟦/if⟧

        ⟦#if _config.showMaps⟧⟦#if _config.googleMapsApiKey⟧⟦#if meta.destination⟧
        <section id=\"map\">
            <iframe title=\"Map\" width=\"100%\" height=\"360\" style=\"border:0\" loading=\"lazy\"
                src=\"https://www.google.com/maps/embed/v1/place?key=⟦_config.googleMapsApiKey⟧&q=⟦encodeUri meta.destination⟧\"></iframe>
        </section>
        ⟦/if⟧⟦/if⟧⟦/if⟧

        ⟦#if _config.reserveUrl⟧
        <section id=\"reserve\">
            <a class=\"dates-badge\" href=\"⟦_config.reserveUrl⟧\" target=\"_blank\">Reserve Now</a>
        </section>
        ⟦/if⟧
    </div>

    <footer>
        Prepared by ⟦_config.agent.name⟧, ⟦_config.agent.agency⟧
        ⟦#if meta.lastUpdated⟧&middot; Updated ⟦formatDate meta.lastUpdated⟧⟦/if⟧
        &middot; <a href=\"⟦_config.commentThreadUrl⟧\">⟦_config.commentCountLabel⟧</a>
        <br>Generated ⟦timestamp⟧
    </footer>
</body>
</html>
"

/-! ### The template -/

/-- The characters that a character of a section stands for. -/
def layoutChar (c : CodePoint) : List CodePoint :=
  match c with
  | '⟦' => openMark
  | '⟧' => closeMark
  | '⟨' => ['\x7b']
  | '⟩' => ['\x7d']
  | c => [c]

/-- The built-in template. -/
def builtInText : Text :=
  Text.ofList <|
    [pageHead, pageTop, daysSection, lodgingSection, bookingsSection, tiersSection, extrasSection,
      toursSection, pageBottom].flatMap fun part => part.toList.flatMap layoutChar

end TripProposal.Template
