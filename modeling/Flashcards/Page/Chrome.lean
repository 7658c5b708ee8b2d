import Flashcards.Text.Basic

/-!
# Fixed texts of the page

The style sheets and the script that every page carries, the words on it, and the two pieces of markup that are put together from
given texts: the message of an error, and the two faces of a card with the style sheet of its model.

The script binds the flip of a card in the reader's browser. It follows the same rule as the flip of this library.
-/

namespace Flashcards.Chrome

open Text

/-- Lines as one text with a line feed between each two. -/
def ofLines (lines : List String) : Text := joinWith ['\n'] (lines.map String.toList)

/-! ## Words -/

/-- What a card says that shows its front. -/
def hintAnswer : Text := "Click to show answer ▾"

/-- What a card says that shows its back. -/
def hintQuestion : Text := "Click to show question ▴"

/-- What stands in the place of the cards while a deck is loaded. -/
def loading : Text := "Loading..."

/-- What stands in the place of the cards of a deck without notes. -/
def noNotes : Text := "<p>No notes in this deck.</p>"

/-- The title of a page on which no deck has been shown. -/
def title : Text := "Deck Viewer"

/-! ## Style sheets and the script -/

/-- The lines of the style sheet of every templated card. -/
def cardStyleLines : List String :=
  ["",
   "    .card \x7b font-family: arial; font-size: 20px; text-align: center; color: black; background-color: white; " ++
      "\x7d",
   "    hr#answer \x7b border: 0; border-top: 1px dashed #ccc; margin: 15px 0; \x7d",
   "    "]

/-- The style sheet of every templated card, behind that of its model. -/
def cardStyle : Text := ofLines cardStyleLines

/-- The lines of the style sheet of the page. -/
def pageStyleLines : List String :=
  ["",
   "    body \x7b font-family: -apple-system, BlinkMacSystemFont, 'Segoe UI', Roboto, Helvetica, Arial, sans-serif; " ++
      "margin: 0; padding: 20px; background: #f4f6f9; color: #333; \x7d",
   "    #deck-title \x7b margin: 0 0 10px 0; \x7d",
   "    #controls \x7b margin-bottom: 15px; color: #666; font-size: 0.9em; \x7d",
   "    .card-container \x7b background: #fff; border-radius: 12px; box-shadow: 0 2px 10px rgba(0,0,0,0.05); " ++
      "margin: 0 auto 20px auto; max-width: 800px; overflow: hidden; \x7d",
   "    .card-render \x7b padding: 15px; \x7d",
   "    .card-raw th \x7b text-align: left; width: 150px; padding: 8px; border-bottom: 1px solid #eee; " ++
      "vertical-align: top; \x7d",
   "    .card-raw td \x7b padding: 8px; border-bottom: 1px solid #eee; \x7d",
   "    .card-raw table \x7b width: 100%; border-collapse: collapse; \x7d",
   "    .card-flip-hint \x7b text-align: center; font-size: 0.75em; color: #adb5bd; margin-top: 10px; user-select: " ++
      "none; \x7d",
   "    .card-tags \x7b padding: 8px 15px; border-top: 1px solid #f2f2f2; \x7d",
   "    .tag \x7b display: inline-block; background: #f1f3f5; padding: 2px 8px; border-radius: 10px; margin: 0 2px; " ++
      "font-size: 0.75em; color: #868e96; \x7d",
   "    .error \x7b color: #c0392b; padding: 12px; background: #fdecea; border-radius: 8px; \x7d",
   "    "]

/-- The style sheet of the page. -/
def pageStyle : Text := ofLines pageStyleLines

/-- The lines of the script that flips cards. -/
def flipScriptLines : List String :=
  ["",
   "    document.addEventListener('click', function (e) \x7b",
   "        var card = e.target.closest('.card-render[data-side]');",
   "        if (!card) return;",
   "        var front = card.querySelector('.card-front');",
   "        var back = card.querySelector('.card-back');",
   "        var hint = card.querySelector('.card-flip-hint');",
   "        if (card.dataset.side === 'front') \x7b",
   "            front.style.display = 'none';",
   "            back.style.display = '';",
   "            if (hint) hint.textContent = 'Click to show question ▴';",
   "            card.dataset.side = 'back';",
   "        \x7d else \x7b",
   "            front.style.display = '';",
   "            back.style.display = 'none';",
   "            if (hint) hint.textContent = 'Click to show answer ▾';",
   "            card.dataset.side = 'front';",
   "        \x7d",
   "    \x7d);",
   "    "]

/-- The script that flips cards. -/
def flipScript : Text := ofLines flipScriptLines

/-! ## Markup -/

/-- A character as it is written in a message. -/
def escapeChar (c : Char) : Text :=
  if c = '&' then "&amp;" else if c = '<' then "&lt;" else if c = '>' then "&gt;"
  else if c = '\x22' then "&quot;" else if c = '\x27' then "&#x27;" else [c]

/-- A text as it is written in a message: nothing in it is markup. -/
def escape (t : Text) : Text := t.flatMap escapeChar

/-- The markup that tells of an error. -/
def errorMarkup (message : Text) : Text :=
  "<div class=\"error\">Error loading deck: " ++ escape message ++ "</div>"

/-- The markup of a card: the style sheet of its model before the common one, and both faces, of which the front is shown. -/
def cardMarkup (style front back : Text) : Text :=
  "<style>\n" ++ style ++ "\n" ++ cardStyle ++ "</style>" ++
    "<div class=\"card-face card-front\">" ++ front ++ "</div>" ++
    "<div class=\"card-face card-back\" style=\"display:none\">" ++ back ++ "</div>"

end Flashcards.Chrome
