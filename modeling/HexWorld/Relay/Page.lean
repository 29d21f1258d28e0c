import HexWorld.Sync.Hub

/-!
# The status page

## Contents
- `Page.text`, a page with four figures and the paths of the relay.
-/

namespace HexWorld.Page

/-- The page for a phase, a world time, a number of rooms and a number of stream clients, each as it
is to be shown. -/
def text (phase worldTime rooms clients : String) : String :=
  "\n".intercalate [
    "<!DOCTYPE html>",
    "<html lang=\"en\">",
    "<head>",
    "    <meta charset=\"utf-8\">",
    "    <title>Hexwatch Observer</title>",
    "    <style>",
    "        body \x7b",
    "            background: #0d1117;",
    "            color: #c9d1d9;",
    "            font-family: 'Cascadia Code', 'Fira Code', 'Consolas', monospace;",
    "            padding: 2rem;",
    "            max-width: 800px;",
    "            margin: 0 auto;",
    "        \x7d",
    "        h1 \x7b color: #58a6ff; margin-bottom: 0.25rem; \x7d",
    "        .subtitle \x7b color: #8b949e; margin-top: 0; \x7d",
    "        .metric \x7b",
    "            display: inline-block;",
    "            background: #161b22;",
    "            border: 1px solid #30363d;",
    "            border-radius: 6px;",
    "            padding: 1rem 1.5rem;",
    "            margin: 0.5rem 0.5rem 0.5rem 0;",
    "            min-width: 120px;",
    "        \x7d",
    "        .metric .label \x7b color: #8b949e; font-size: 0.85rem; \x7d",
    "        .metric .value \x7b color: #58a6ff; font-size: 1.5rem; font-weight: bold; \x7d",
    "        a \x7b color: #58a6ff; text-decoration: none; \x7d",
    "        ul \x7b list-style: none; padding: 0; \x7d",
    "        li \x7b padding: 0.3rem 0; \x7d",
    "        li::before \x7b content: \"GET \"; color: #7ee787; font-weight: bold; \x7d",
    "    </style>",
    "</head>",
    "<body>",
    "    <h1>Hexwatch Observer</h1>",
    "    <p class=\"subtitle\">World-state mirror relay</p>",
    "",
    "    <div>",
    "        <div class=\"metric\">",
    "            <div class=\"label\">Phase</div>",
    "            <div class=\"value\">" ++ phase ++ "</div>",
    "        </div>",
    "        <div class=\"metric\">",
    "            <div class=\"label\">World time</div>",
    "            <div class=\"value\">" ++ worldTime ++ "</div>",
    "        </div>",
    "        <div class=\"metric\">",
    "            <div class=\"label\">Rooms</div>",
    "            <div class=\"value\">" ++ rooms ++ "</div>",
    "        </div>",
    "        <div class=\"metric\">",
    "            <div class=\"label\">Stream clients</div>",
    "            <div class=\"value\">" ++ clients ++ "</div>",
    "        </div>",
    "    </div>",
    "",
    "    <h2>API Endpoints</h2>",
    "    <ul>",
    "        <li><a href=\"/api/status\">/api/status</a> -- Sync status</li>",
    "        <li><a href=\"/api/rooms\">/api/rooms</a> -- Rooms and layout</li>",
    "        <li>/api/rooms/\x7broom_id\x7d/objects -- Entities of one room</li>",
    "        <li>/api/rooms/\x7broom_id\x7d/terrain -- Terrain of one room</li>",
    "    </ul>",
    "",
    "    <h2>WebSocket</h2>",
    "    <ul>",
    "        <li style=\"list-style:none;\"><code>ws://host:port/ws/objects</code> -- Send" ++
      " a room id, receive its entities every tick</li>",
    "    </ul>",
    "</body>",
    "</html>"]
/-- The page for what supervision shares. -/
def ofHub {β τ : Type} (h : Hub β τ) (clients : Nat) : String :=
  let worldTime := match h.current with
    | some s => if s.isInitialized then toString s.worldTime.toInt else "-"
    | none => "-"
  let rooms := h.current.elim 0 fun s => s.topology.rooms.length
  text h.phase.shape worldTime (toString rooms) (toString clients)

end HexWorld.Page
