import LiveEvents.Config.Validation
import LiveEvents.Feed.Task
import LiveEvents.Observation
import LiveEvents.Settings

/-!
# Crawlers

A crawler brings in the events of one source: a feed listens to an exchange, a poller asks for
prices or schedules. Which of them there are follows from the configuration, where the prices of
Binance may be polled instead of its feed, or while that cannot be started.
-/

namespace LiveEvents

inductive Crawler where
  | binance
  /-- Prices of Binance, polled. -/
  | binanceRest
  | bybit
  | okx
  | nba
  deriving DecidableEq, Repr

def Crawler.name : Crawler → String
  | binance => "binance"
  | binanceRest => "binance_rest"
  | bybit => "bybit"
  | okx => "okx"
  | nba => "nba"

structure PricePlan where
  settings : PricePollSettings
  identity : Identity
  deriving DecidableEq, Repr

structure SchedulePlan where
  settings : SchedulePollSettings
  identity : Identity
  deriving DecidableEq, Repr

structure Crawlers where
  binance : Option Feed.Plan
  bybit : Option Feed.Plan
  okx : Option Feed.Plan
  mode : Config.BinanceMode
  prices : Option PricePlan
  schedules : Option SchedulePlan
  deriving DecidableEq, Repr

namespace Config

def Catalog.priceIdentity (c : Catalog) (s : Stream) : Identity where
  category := c.cryptoCategory
  ecosystem := s.ecosystem
  language := c.language

def Catalog.gameIdentity (c : Catalog) (n : Nba) : Identity where
  category := c.sportCategory
  ecosystem := n.ecosystem
  language := c.language

def Stream.plan? (s : Stream) (exchange : Exchange) (c : Catalog) : Option Feed.Plan :=
  if s.enabled then some { exchange, settings := s.settings, identity := c.priceIdentity s }
  else none

def Binance.pricePlan? (b : Binance) (c : Catalog) : Option PricePlan :=
  if b.usesRest then some { settings := b.pollSettings, identity := c.priceIdentity b.stream }
  else none

def Nba.plan? (n : Nba) (c : Catalog) : Option SchedulePlan :=
  if n.enabled then some { settings := n.settings, identity := c.gameIdentity n } else none

end Config

def Config.crawlers (c : Config) : Crawlers where
  binance := c.binance.stream.plan? .binance c.catalog
  bybit := c.bybit.plan? .bybit c.catalog
  okx := c.okx.plan? .okx c.catalog
  mode := c.binance.mode
  prices := c.binance.pricePlan? c.catalog
  schedules := c.nba.plan? c.catalog

end LiveEvents
