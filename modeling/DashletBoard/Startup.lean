/-
Module: DashletBoard.Startup
Purpose: The service as a whole: from settings and a network to tabs that are loaded and requests that
  are answered.
Main exports: Network, Links, Running, Running.load?, Running.start?, Running.handle?
-/
import DashletBoard.BuildServer.Client
import DashletBoard.Http.SocketAddress
import DashletBoard.Service

namespace DashletBoard

open BuildServer

/-- What the service needs of a network: the names of hosts, the way to the build server, and addresses to
listen at. -/
structure Network (τ : Type) where
  hosts : Http.HostReader
  transport : Transport τ
  canListen : Http.SocketAddress → Bool

/-- The state of a running service's world.  The tabs and the overview each have a client of their own, so
each client has its own crumb. -/
structure Links (τ : Type) where
  boardCrumb : Crumb.Knowledge := .open
  overviewCrumb : Crumb.Knowledge := .open
  world : τ

namespace Settings

/-- The calls to the build server for tabs. -/
def boardBackend (settings : Settings) (hosts : Http.HostReader) (transport : Transport τ) :
    Backend (Links τ) :=
  ((Client.ofSettings hosts settings.buildServer settings.scope).backend transport.bounded).within
    (fun links => ⟨links.boardCrumb, links.world⟩)
    (fun links session => { links with boardCrumb := session.known, world := session.world })

/-- The calls to the build server for the overview, which always addresses test cases. -/
def overviewBackend (settings : Settings) (hosts : Http.HostReader) (transport : Transport τ) :
    Backend (Links τ) :=
  ((Client.ofSettings hosts settings.buildServer .testCase).backend transport.bounded).within
    (fun links => ⟨links.overviewCrumb, links.world⟩)
    (fun links session => { links with overviewCrumb := session.known, world := session.world })

end Settings

/-- A running service with its links. -/
structure Running (τ : Type) where
  service : Service
  links : Links τ

namespace Running

/-- Loads the tabs of the settings; none if loading has no end. -/
def load? (settings : Settings) (hosts : Http.HostReader) (transport : Transport τ) (world : τ) :
    Option (Running τ) :=
  (Service.initialize? (settings.boardBackend hosts transport) settings.geometry settings.tabs
    settings.fragment { world }).map fun (service, links) => ⟨service, links⟩

/-- Starts the service: the tabs are loaded, and then it listens.  None if it does not come to that, as
loading has no end, the address is none, or the network refuses it. -/
def start? (settings : Settings) (network : Network τ) (world : τ) : Option (Running τ) :=
  match load? settings network.hosts network.transport world with
  | none => none
  | some running =>
    match Http.SocketAddress.parse? settings.listen with
    | none => none
    | some address => if network.canListen address then some running else none

/-- Answers a request; none if that has no end. -/
def handle? (settings : Settings) (hosts : Http.HostReader) (transport : Transport τ)
    (request : Http.Request) (running : Running τ) : Option (Http.Response × Running τ) :=
  (running.service.handle? (settings.boardBackend hosts transport)
    (settings.overviewBackend hosts transport) request running.links).map
      fun (response, service, links) => (response, ⟨service, links⟩)

end Running

end DashletBoard
