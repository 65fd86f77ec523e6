import SignOn.Settings
/-!
The letter that brings a one-time code: the same words as a page and as plain text. Names and codes
are put in as they are.
-/

namespace SignOn.Mail

/-- A letter with two bodies, of which a reader shows one. -/
structure Letter where
  subject : String
  html : String
  text : String
  deriving DecidableEq, Repr

namespace Letter

/-- What is said below the code. -/
def hint : String :=
  "The code expires in 5 minutes. If you did not request it, ignore this message."

/-- The style of the page. -/
def style : List String := [
  "        body \x7b",
  "            margin: 0;",
  "            padding: 0;",
  "            background-color: #FAFBFC;",
  "            color: #141517;",
  "            font-family: -apple-system, BlinkMacSystemFont, 'Segoe UI', Roboto, " ++
    "Arial, sans-serif;",
  "        \x7d",
  "",
  "        .card \x7b",
  "            max-width: 520px;",
  "            margin: 28px auto;",
  "            padding: 28px 24px;",
  "            background-color: #FFFFFF;",
  "            border: 1px solid rgba(0, 0, 0, 0.08);",
  "            border-radius: 16px;",
  "        \x7d",
  "",
  "        .code \x7b",
  "            margin: 20px 0;",
  "            font-size: 32px;",
  "            font-weight: 700;",
  "            letter-spacing: 0.3em;",
  "        \x7d",
  "",
  "        .meta \x7b",
  "            color: #5C5F66;",
  "            font-size: 13px;",
  "        \x7d"]

/-- The head of the page. -/
def head (title : String) : List String :=
  ["<head>", "    <meta charset=\"UTF-8\">",
    "    <meta name=\"viewport\" content=\"width=device-width, initial-scale=1.0\">",
    "    <title>" ++ title ++ "</title>", "    <style>"] ++ style ++ ["    </style>", "</head>"]

/-- What can be seen of the page. -/
def card (title code : String) : List String := [
  "<body>",
  "    <div class=\"card\">",
  "        <p>Your " ++ title ++ ":</p>",
  "        <p class=\"code\">" ++ code ++ "</p>",
  "        <p class=\"meta\">" ++ hint ++ "</p>",
  "    </div>",
  "</body>"]

/-- Lines, each ended. -/
def lines (ls : List String) : String := String.join (ls.map (· ++ "\n"))

/-- The letter that brings a code, in the name of a product. -/
def ofCode (product code : String) : Letter :=
  let subject := product ++ " verification code"
  { subject
    html := lines (["<!DOCTYPE html>", "<html lang=\"en\">"] ++ head subject ++ card subject code ++
      ["</html>"])
    text := lines ["Your " ++ subject ++ ": " ++ code, "", hint] }

end Letter
end SignOn.Mail
