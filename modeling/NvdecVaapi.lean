import NvdecVaapi.Basis
import NvdecVaapi.Zustand
import NvdecVaapi.Register
import NvdecVaapi.Ring
import NvdecVaapi.Tabellen
import NvdecVaapi.Einstieg.Dekodieren
import NvdecVaapi.Einstieg.Weitere
import NvdecVaapi.Rahmen
import NvdecVaapi.Pruefung
import NvdecVaapi.System
import NvdecVaapi.Wirkung
import NvdecVaapi.Schritte
import NvdecVaapi.Bildindex
import NvdecVaapi.Abbau
import NvdecVaapi.Pipeline
import NvdecVaapi.Pipeline.Faeden
import NvdecVaapi.Pipeline.Aufrufe
import NvdecVaapi.Pipeline.Weiter
import NvdecVaapi.Pipeline.Lauf
import NvdecVaapi.Verwaist
import NvdecVaapi.Pipeline.Zug
import NvdecVaapi.Kanal
import NvdecVaapi.Aufloesung
import NvdecVaapi.Codectabelle
import NvdecVaapi.Zaehler
import NvdecVaapi.Puffer
import NvdecVaapi.Beenden
import NvdecVaapi.Bild
import NvdecVaapi.Synchron
import NvdecVaapi.Vorrat
import NvdecVaapi.Bewahrung
import NvdecVaapi.Typtreue
import NvdecVaapi.Rueckbau
import NvdecVaapi.Konfiguration
