/-
  The page that a visitor meets at the gate, and the script on it that solves the challenge.
-/
import VeiledGateway.Gate.Challenge

set_option autoImplicit false

namespace VeiledGateway.Page

/-- Where the files lie that belong to the page. -/
def folder : Text := "/challenge/static/"

/-- The name of the script. -/
def scriptName : Text := "solver.js"

/-- Where solutions are handed in. -/
def verifyPath : Text := "/verify"

def lines (ts : List String) : Text :=
  ts.flatMap fun t => Text.ofString t ++ [CodePoint.ofChar '\n']

/-- A value in quotes under the name of an attribute. -/
def field (name : String) (value : Text) : Text :=
  ("        " : Text) ++ Text.ofString name ++ ("=\"" : Text) ++ value ++ ("\"\n" : Text)

/-- The page up to the attributes of its script. -/
def opening : Text :=
  lines [
    "<!DOCTYPE html>",
    "<html lang=\"en\">",
    "<head>",
    "    <meta charset=\"utf-8\">",
    "    <meta name=\"viewport\" content=\"width=device-width, initial-scale=1\">",
    "    <meta name=\"robots\" content=\"noindex\">",
    "    <title>Checking your browser</title>",
    "    <style>",
    "        body \x7b",
    "            font-family: system-ui, -apple-system, sans-serif;",
    "            background: #0f1115;",
    "            color: #e6e6e6;",
    "            display: flex;",
    "            align-items: center;",
    "            justify-content: center;",
    "            min-height: 100vh;",
    "            margin: 0;",
    "        \x7d",
    "        .panel \x7b text-align: center; max-width: 28rem; padding: 2rem; \x7d",
    "        .spinner \x7b",
    "            width: 2.5rem;",
    "            height: 2.5rem;",
    "            margin: 0 auto 1.5rem;",
    "            border: 3px solid #2a2e37;",
    "            border-top-color: #6ea8fe;",
    "            border-radius: 50%;",
    "            animation: spin 0.9s linear infinite;",
    "        \x7d",
    "        .status \x7b color: #9aa0a6; font-size: 0.9rem; \x7d",
    "        @keyframes spin \x7b to \x7b transform: rotate(360deg); \x7d \x7d",
    "    </style>",
    "</head>",
    "<body>",
    "    <div class=\"panel\">",
    "        <div class=\"spinner\"></div>",
    "        <h1>Checking your browser</h1>",
    "        <p class=\"status\" id=\"status\">This only takes a moment.</p>",
    "        <noscript><p>JavaScript is required to continue.</p></noscript>",
    "    </div>",
    "    <script"]

/-- The page after the attributes of its script that depend on the challenge. -/
def closing : Text :=
  "        defer></script>\n</body>\n</html>"

/-- The page for a challenge. -/
def ofChallenge (challenge : Challenge) : Text :=
  opening ++ field "id" "challenge" ++ field "src" (folder ++ scriptName)
    ++ field "data-nonce" challenge.nonce
    ++ field "data-difficulty" (Text.ofInt challenge.difficulty)
    ++ field "data-verify-url" verifyPath ++ closing

/-- The script of the page. -/
def script : Text :=
  lines [
    "// Proof-of-work solver: find a counter whose SHA-256(nonce + counter)",
    "// starts with \x60difficulty\x60 zero hex digits, then post it to /verify.",
    "(function () \x7b",
    "    const config = document.getElementById('challenge').dataset;",
    "    const statusEl = document.getElementById('status');",
    "    const MAX_ATTEMPTS = 50000000;",
    "",
    "    function toHex(buffer) \x7b",
    "        return Array.from(new Uint8Array(buffer))",
    "            .map((b) => b.toString(16).padStart(2, '0'))",
    "            .join('');",
    "    \x7d",
    "",
    "    async function solve(nonce, difficulty) \x7b",
    "        const prefix = '0'.repeat(difficulty);",
    "        const encoder = new TextEncoder();",
    "",
    "        for (let counter = 0; counter < MAX_ATTEMPTS; counter++) \x7b",
    "            const digest = await crypto.subtle.digest('SHA-256', encoder.encode(nonce + counter));",
    "            if (toHex(digest).startsWith(prefix)) \x7b",
    "                return counter;",
    "            \x7d",
    "            // Keep the page responsive",
    "            if (counter % 1000 === 0) \x7b",
    "                await new Promise((resolve) => setTimeout(resolve, 0));",
    "            \x7d",
    "        \x7d",
    "        throw new Error('No solution found');",
    "    \x7d",
    "",
    "    async function run() \x7b",
    "        try \x7b",
    "            const solution = await solve(config.nonce, parseInt(config.difficulty, 10));",
    "            const response = await fetch(config.verifyUrl, \x7b",
    "                method: 'POST',",
    "                headers: \x7b 'Content-Type': 'application/json' \x7d,",
    "                body: JSON.stringify(\x7b solution: solution.toString() \x7d),",
    "                credentials: 'same-origin',",
    "            \x7d);",
    "            const result = await response.json();",
    "            if (!result.success) \x7b",
    "                throw new Error(result.error || 'Verification rejected');",
    "            \x7d",
    "            statusEl.textContent = 'Done, redirecting...';",
    "            window.location.href = '/';",
    "        \x7d catch (error) \x7b",
    "            console.error('Verification failed:', error);",
    "            statusEl.textContent = 'Verification failed, retrying...';",
    "            // A reload issues a fresh challenge",
    "            setTimeout(() => window.location.reload(), 2000);",
    "        \x7d",
    "    \x7d",
    "",
    "    run();",
    "\x7d)();"]

end VeiledGateway.Page
